import RepoWitness.ComparatorOrder

namespace RepoWitness

open Std

/-!
# Bounded repository paths

A repository path is a byte string that passed `validate` under some limits.
Its only separator is `/`; `.`, `..` and `.git` components, empty components
and NUL bytes are rejected, and every other byte is preserved.
-/

/-- Inclusive byte and component bounds for path construction. -/
structure RepositoryPathLimits where
  maxBytes : Nat
  maxComponents : Nat
  deriving DecidableEq

/-- Failure to construct a validated repository path. -/
inductive RepositoryPathError where
  | byteCountNotRepresentable
  | byteLimitExceeded (actual limit : Nat)
  | empty
  | leadingSlash
  | trailingSlash
  | emptyComponent
  | containsNul
  | currentDirectoryComponent
  | parentDirectoryComponent
  | dotGitComponent
  | componentCountNotRepresentable
  | componentLimitExceeded (actual limit : Nat)
  deriving DecidableEq

structure ValidatedCounts where
  bytes : Nat
  components : Nat
  deriving DecidableEq

namespace RepositoryPath

/-- The ASCII separator `/`. -/
def slash : UInt8 := 47

/-- `bytes.split(|byte| *byte == b'/')`. -/
def splitComponents (bytes : List UInt8) : List (List UInt8) := bytes.splitOn slash

def validateByteCount (bytes : List UInt8) (limit : Nat) : Except RepositoryPathError Nat :=
  if 2 ^ 64 ≤ bytes.length then
    .error .byteCountNotRepresentable
  else if limit < bytes.length then
    .error (.byteLimitExceeded bytes.length limit)
  else
    .ok bytes.length

def validateShape (bytes : List UInt8) : Except RepositoryPathError Unit :=
  if bytes = [] then
    .error .empty
  else if bytes.head? = some slash then
    .error .leadingSlash
  else if bytes.getLast? = some slash then
    .error .trailingSlash
  else
    .ok ()

def validateComponent (component : List UInt8) : Except RepositoryPathError Unit :=
  if component = [] then
    .error .emptyComponent
  else if component.contains 0 then
    .error .containsNul
  else if component = [46] then
    .error .currentDirectoryComponent
  else if component = [46, 46] then
    .error .parentDirectoryComponent
  else if component = [46, 103, 105, 116] then
    .error .dotGitComponent
  else
    .ok ()

/-- The component loop, with the count accumulated before each component. -/
def validateComponentsFrom (limit : Nat) : Nat → List (List UInt8) → Except RepositoryPathError Nat
  | count, [] => .ok count
  | count, component :: rest =>
    if 2 ^ 64 ≤ count + 1 then
      .error .componentCountNotRepresentable
    else if limit < count + 1 then
      .error (.componentLimitExceeded (count + 1) limit)
    else
      match validateComponent component with
      | .error error => .error error
      | .ok () => validateComponentsFrom limit (count + 1) rest

def validateComponents (bytes : List UInt8) (limit : Nat) : Except RepositoryPathError Nat :=
  validateComponentsFrom limit 0 (splitComponents bytes)

def validate (bytes : List UInt8) (limits : RepositoryPathLimits) :
    Except RepositoryPathError ValidatedCounts := do
  let byteCount ← validateByteCount bytes limits.maxBytes
  validateShape bytes
  let componentCount ← validateComponents bytes limits.maxComponents
  .ok { bytes := byteCount, components := componentCount }

end RepositoryPath

/--
A validated repository path.

`addressable` is the size of a live boxed slice: no 64-bit target maps more
than `2 ^ 62` bytes into one process.
-/
structure RepositoryPath where
  bytes : List UInt8
  accepted : ∃ limits counts, RepositoryPath.validate bytes limits = .ok counts
  addressable : bytes.length < 2 ^ 62
  deriving DecidableEq

namespace RepositoryPath

theorem bytes_injective : Function.Injective RepositoryPath.bytes := by
  intro first second same
  cases first
  cases second
  cases same
  rfl

instance : Ord RepositoryPath where
  compare := compareOn RepositoryPath.bytes

instance : TransOrd RepositoryPath := inferInstanceAs (TransCmp (compareOn RepositoryPath.bytes))

instance : LawfulEqOrd RepositoryPath := lawfulEqCmp_compareOn bytes_injective

/-- Exact components in repository order. -/
def components (path : RepositoryPath) : List (List UInt8) := splitComponents path.bytes

/-- The last component ends in `.rs` and is longer than that suffix. -/
def isRustPath (path : RepositoryPath) : Bool :=
  match path.components.getLast? with
  | none => false
  | some component => [46, 114, 115].isSuffixOf component && decide (3 < component.length)

/-- `try_from_bytes` and `try_from_vec`, on bytes that a process holds. -/
def tryFromBytes (bytes : List UInt8) (addressable : bytes.length < 2 ^ 62)
    (limits : RepositoryPathLimits) : Except RepositoryPathError RepositoryPath :=
  match valid : validate bytes limits with
  | .error error => .error error
  | .ok counts => .ok ⟨bytes, ⟨limits, counts, valid⟩, addressable⟩

/-! ## The accepted byte strings -/

/-- A component that a repository path may have. -/
structure IsComponent (component : List UInt8) : Prop where
  nonempty : component ≠ []
  unseparated : slash ∉ component
  withoutNul : 0 ∉ component
  notCurrent : component ≠ [46]
  notParent : component ≠ [46, 46]
  notGit : component ≠ [46, 103, 105, 116]

/-- A nonempty list of components, joined by slashes, within both limits. -/
def WellFormed (limits : RepositoryPathLimits) (bytes : List UInt8) : Prop :=
  ∃ components, components ≠ [] ∧ bytes = [slash].intercalate components ∧
    (∀ component ∈ components, IsComponent component) ∧
    bytes.length ≤ limits.maxBytes ∧ components.length ≤ limits.maxComponents

theorem validateComponent_eq_ok_iff {component : List UInt8} (unseparated : slash ∉ component) :
    validateComponent component = .ok () ↔ IsComponent component := by
  unfold validateComponent
  constructor
  · intro valid
    repeat' split at valid
    case isFalse =>
      rename_i nonempty withoutNul notCurrent notParent notGit
      exact ⟨nonempty, unseparated, by simpa using withoutNul, notCurrent, notParent, notGit⟩
    all_goals cases valid
  · rintro ⟨nonempty, -, withoutNul, notCurrent, notParent, notGit⟩
    rw [if_neg nonempty, if_neg (by simpa using withoutNul), if_neg notCurrent, if_neg notParent,
      if_neg notGit]

variable {components : List (List UInt8)} {bytes : List UInt8} {limits : RepositoryPathLimits}

theorem validateComponentsFrom_eq_ok_iff {limit count total : Nat}
    (within : count ≤ limit) (representable : count < 2 ^ 64) :
    validateComponentsFrom limit count components = .ok total ↔
      (∀ component ∈ components, validateComponent component = .ok ()) ∧
        count + components.length ≤ limit ∧ count + components.length < 2 ^ 64 ∧
          total = count + components.length := by
  induction components generalizing count with
  | nil =>
    rw [validateComponentsFrom, Except.ok.injEq, List.length_nil]
    simp only [List.not_mem_nil, false_implies, implies_true, true_and]
    omega
  | cons component rest hypothesis =>
    rw [validateComponentsFrom, List.forall_mem_cons, List.length_cons]
    by_cases large : 2 ^ 64 ≤ count + 1 ∨ limit < count + 1
    · refine iff_of_false ?_ (by omega)
      split
      · exact nofun
      · rw [if_pos (by omega)]
        exact nofun
    · rw [if_neg (by omega), if_neg (by omega)]
      cases validateComponent component with
      | error error => simp
      | ok done =>
        simp only [true_and]
        rw [hypothesis (by omega) (by omega), Nat.add_assoc, Nat.add_comm 1]

theorem slash_not_mem_splitComponents : ∀ component ∈ splitComponents bytes, slash ∉ component := by
  unfold splitComponents
  induction bytes with
  | nil => simp
  | cons first rest hypothesis =>
    rw [List.splitOn_cons_eq_if_modifyHead]
    split
    · rw [List.forall_mem_cons]
      exact ⟨List.not_mem_nil, hypothesis⟩
    · rename_i other
      obtain ⟨head, tail, parts⟩ := List.exists_cons_of_ne_nil (List.splitOn_ne_nil slash rest)
      rw [parts, List.forall_mem_cons] at hypothesis
      rw [parts, List.modifyHead_cons, List.forall_mem_cons]
      refine ⟨?_, hypothesis.2⟩
      rw [List.mem_cons, not_or]
      exact ⟨fun same => other (by simp [same]), hypothesis.1⟩

theorem validateShape_intercalate (nonempty : components ≠ [])
    (valid : ∀ component ∈ components, IsComponent component) :
    validateShape ([slash].intercalate components) = .ok () := by
  have ends : ∃ first last, ([slash].intercalate components).head? = some first ∧
      ([slash].intercalate components).getLast? = some last ∧ first ≠ slash ∧ last ≠ slash := by
    induction components with
    | nil => exact absurd rfl nonempty
    | cons component rest hypothesis =>
      obtain ⟨here, later⟩ := List.forall_mem_cons.mp valid
      have inside : ∀ byte ∈ component, byte ≠ slash := by
        rintro byte isByte rfl
        exact here.unseparated isByte
      have starts := List.head?_eq_some_head here.nonempty
      have finishes := List.getLast?_eq_some_getLast here.nonempty
      by_cases alone : rest = []
      · subst alone
        rw [List.intercalate_singleton]
        exact ⟨_, _, starts, finishes, inside _ (List.head_mem _), inside _ (List.getLast_mem _)⟩
      · obtain ⟨first, last, -, restFinishes, -, apart⟩ := hypothesis alone later
        rw [List.intercalate_cons_of_ne_nil alone]
        refine ⟨_, last, ?_, ?_, inside _ (List.head_mem here.nonempty), apart⟩
        · rw [List.append_assoc, List.head?_append_of_ne_nil _ here.nonempty, starts]
        · rw [List.getLast?_append, restFinishes]
          rfl
  obtain ⟨first, last, starts, finishes, notFirst, notLast⟩ := ends
  have occupied : [slash].intercalate components ≠ [] := by
    intro empty
    rw [empty] at starts
    cases starts
  rw [validateShape, if_neg occupied, starts, finishes, if_neg (by simpa using notFirst),
    if_neg (by simpa using notLast)]

/-- The validation accepts exactly the well-formed byte strings. -/
theorem validate_eq_ok_iff (representable : bytes.length < 2 ^ 64) :
    (∃ counts, validate bytes limits = .ok counts) ↔ WellFormed limits bytes := by
  have joined : [slash].intercalate (splitComponents bytes) = bytes :=
    List.intercalate_splitOn slash
  constructor
  · rintro ⟨counts, valid⟩
    unfold validate at valid
    cases counted : validateByteCount bytes limits.maxBytes with
    | error error => rw [counted] at valid; cases valid
    | ok byteCount =>
      cases shaped : validateShape bytes with
      | error error => rw [counted, shaped] at valid; cases valid
      | ok done =>
        cases checked : validateComponents bytes limits.maxComponents with
        | error error => rw [counted, shaped, checked] at valid; cases valid
        | ok componentCount =>
          obtain ⟨components, few, -, -⟩ :=
            (validateComponentsFrom_eq_ok_iff (Nat.zero_le _) (by decide)).mp checked
          refine ⟨splitComponents bytes, List.splitOn_ne_nil _ _, joined.symm, ?_, ?_, ?_⟩
          · intro component isComponent
            exact (validateComponent_eq_ok_iff (slash_not_mem_splitComponents component
              isComponent)).mp (components component isComponent)
          · rw [validateByteCount] at counted
            by_contra large
            rw [if_neg (by omega), if_pos (by omega)] at counted
            cases counted
          · omega
  · rintro ⟨components, nonempty, rfl, valid, bytesFit, componentsFit⟩
    have split : splitComponents ([slash].intercalate components) = components :=
      List.splitOn_intercalate slash (fun component isComponent =>
        (valid component isComponent).unseparated) nonempty
    have few : components.length ≤ ([slash].intercalate components).length := by
      clear representable bytesFit componentsFit split joined
      induction components with
      | nil => exact absurd rfl nonempty
      | cons component rest hypothesis =>
        obtain ⟨here, later⟩ := List.forall_mem_cons.mp valid
        have positive := List.length_pos_iff.mpr here.nonempty
        by_cases alone : rest = []
        · subst alone
          simpa [Nat.succ_le_iff] using positive
        · have shorter := hypothesis alone later
          rw [List.intercalate_cons_of_ne_nil alone]
          simp only [List.length_append, List.length_cons]
          omega
    refine ⟨⟨([slash].intercalate components).length, 0 + components.length⟩, ?_⟩
    rw [validate, validateByteCount, if_neg (by omega), if_neg (by omega),
      validateShape_intercalate nonempty valid, validateComponents, split,
      (validateComponentsFrom_eq_ok_iff (Nat.zero_le _) (by decide)).mpr
        ⟨fun component isComponent => (validateComponent_eq_ok_iff
          (valid component isComponent).unseparated).mpr (valid component isComponent),
          by omega, by omega, rfl⟩]
    rfl

theorem nonempty (path : RepositoryPath) : path.bytes ≠ [] := by
  obtain ⟨limits, counts, valid⟩ := path.accepted
  intro empty
  rw [empty, validate, validateByteCount, if_neg (by decide), if_neg (by simp)] at valid
  cases valid

theorem tryFromBytes_eq_ok_iff {addressable : bytes.length < 2 ^ 62} {path : RepositoryPath} :
    tryFromBytes bytes addressable limits = .ok path ↔
      path.bytes = bytes ∧ ∃ counts, validate bytes limits = .ok counts := by
  unfold tryFromBytes
  constructor
  · intro accepted
    split at accepted
    · cases accepted
    · rename_i counts valid
      cases accepted
      exact ⟨rfl, counts, valid⟩
  · rintro ⟨rfl, counts, valid⟩
    split
    · rename_i refused
      rw [valid] at refused
      cases refused
    · rfl

end RepositoryPath

namespace Sample

/-- The path `a.rs`. -/
def path : RepositoryPath where
  bytes := [97, 46, 114, 115]
  accepted := ⟨⟨4, 1⟩, ⟨4, 1⟩, by decide⟩
  addressable := by decide

end Sample

end RepoWitness
