import Mathlib.Data.Finset.Insert
import RepoWitness.InterleavedObservation
import RepoWitness.SourceReconciliation
import RepoWitness.WriterTables

namespace RepoWitness

open Transaction Interleaving

/-!
# The source snapshot fence

A source snapshot is captured without a lock: Git state, path listing, file
reads, and then the same again in the order listing, reads, Git state.  Other
processes may change the worktree between any two steps.  The second listing is
the step at which everything that was captured held together.
-/

inductive GitObjectFormat where
  | sha1
  | sha256
  deriving DecidableEq

structure CanonicalStatusRecord where
  path : RepositoryPath
  tag : UInt8
  fields : List UInt8
  deriving DecidableEq

inductive SourceStateError where
  | git
  | sparseWorktreeUnsupported
  | submoduleUnsupported
  | concurrentSourceChange
  deriving DecidableEq

inductive LocalRustIndexError where
  | cancelled
  | deadlineExceeded
  | discovery
  | sourceState (source : SourceStateError)
  | sourceRead (ordinal : Nat)
  | excludedFileAlias
  | sourceByteLimitExceeded (limit : Nat)
  | fileLimitExceeded (limit : Nat)
  | preparation
  | stalePathSet
  | staleSourceContent (ordinal : Nat)
  | revalidationRead (ordinal : Nat)
  deriving DecidableEq

inductive LocalSourceSnapshotFenceError where
  | cancelled
  | deadlineExceeded
  | unsupportedSourceState
  | excludedFileAlias
  | captureFailed
  | sourceChanged
  deriving DecidableEq

def mapLocalError : LocalRustIndexError → LocalSourceSnapshotFenceError
  | .cancelled => .cancelled
  | .deadlineExceeded => .deadlineExceeded
  | .excludedFileAlias => .excludedFileAlias
  | .sourceState .sparseWorktreeUnsupported | .sourceState .submoduleUnsupported =>
    .unsupportedSourceState
  | .sourceState .concurrentSourceChange | .stalePathSet | .staleSourceContent _ => .sourceChanged
  | .sourceRead _ | .revalidationRead _ => .sourceChanged
  | _ => .captureFailed

/-- Why a single step gives no answer. -/
inductive LookFault where
  | cancelled
  | deadlineExceeded
  | failed
  deriving DecidableEq

def LocalRustIndexError.orElse (failure : LocalRustIndexError) :
    LookFault → LocalRustIndexError
  | .cancelled => .cancelled
  | .deadlineExceeded => .deadlineExceeded
  | .failed => failure

/-- What the other processes may change.  `content` is absent where no regular
file within the read limits can be opened. -/
structure Worktree where
  objectFormat : GitObjectFormat
  head : Option (List UInt8)
  shallow : Bool
  indexScope : Except SourceStateError Unit
  status : List CanonicalStatusRecord
  discovered : List RepositoryPath
  tracked : List RepositoryPath
  content : RepositoryPath → Option (List UInt8)
  aliasesExcluded : RepositoryPath → Bool

inductive SelectionPolicy where
  | rustOnly
  | supportedLanguages (languages : Finset SourceLanguage)

structure ImmutableRustSource where
  path : RepositoryPath
  content : List UInt8
  language : SourceLanguage
  deriving DecidableEq

structure RustSourceSnapshotIdentity (Digest : Type) where
  gitState : Digest
  worktreeState : Digest

abbrev PathManifest (Digest : Type) := SourceManifest RepositoryPath SourceFileKind Digest

/-- The digests, of which those that are compared determine what they hash. -/
structure SourceHashing (Digest : Type) where
  content : List UInt8 → Digest
  gitState : GitObjectFormat × Option (List UInt8) × Bool → Digest
  manifest : PathManifest Digest → Digest
  worktreeState : List CanonicalStatusRecord → Digest → Digest
  sourceWorktreeState : List CanonicalStatusRecord → Digest → Digest
  snapshot : RustSourceSnapshotIdentity Digest → Digest → Digest
  content_injective : Function.Injective content
  gitState_injective : Function.Injective gitState

structure CapturedSourceState (Digest : Type) where
  gitState : Digest
  statusRecords : List CanonicalStatusRecord
  deriving DecidableEq

structure ScopedRepositoryPaths where
  paths : List RepositoryPath
  topologyPaths : Option (List RepositoryPath)

structure LocalRustIndexLimits where
  maxFiles : UInt64
  maxTotalSourceBytes : Nat

/-- A package scope is its membership test. -/
abbrev PackageScopeFilter := Option (RepositoryPath → Bool)

structure LocalSourceSnapshotFenceRequest (Digest : Type) where
  identity : RustSourceSnapshotIdentity Digest
  expectedSnapshot : Digest
  languages : Finset SourceLanguage
  packageScope : PackageScopeFilter
  limits : LocalRustIndexLimits
  excludesIdentity : Bool

structure ConfirmedLocalSourceSnapshot (Digest : Type) where
  sources : List ImmutableRustSource
  manifest : PathManifest Digest

structure PreparedRustFile (Digest Analysis : Type) where
  path : RepositoryPath
  contentDigest : Digest
  analysis : Analysis

structure PreparedRustIndex (Digest Analysis : Type) where
  manifestDigest : Digest
  files : List (PreparedRustFile Digest Analysis)

structure LocalRustIndexPreparation (Digest Analysis : Type) where
  prepared : PreparedRustIndex Digest Analysis
  topologyPaths : Option (List RepositoryPath)
  identity : RustSourceSnapshotIdentity Digest

def sourceLanguage (path : RepositoryPath) : Option SourceLanguage :=
  if [46, 114, 115].isSuffixOf path.bytes then some .rust
  else if [46, 103, 111].isSuffixOf path.bytes then some .go
  else if [46, 116, 115].isSuffixOf path.bytes then some .typescript
  else if [46, 116, 115, 120].isSuffixOf path.bytes then some .tsx
  else if [46, 112, 121].isSuffixOf path.bytes || [46, 112, 121, 105].isSuffixOf path.bytes then
    some .python
  else none

def SelectionPolicy.allows : SelectionPolicy → SourceLanguage → Bool
  | .rustOnly, language => language = .rust
  | .supportedLanguages languages, language => language ∈ languages

def selectedLanguage (selection : SelectionPolicy) (path : RepositoryPath) :
    Option SourceLanguage := (sourceLanguage path).filter selection.allows

def scopeContains (scope : PackageScopeFilter) (path : RepositoryPath) : Bool :=
  scope.all fun contains => contains path

/-- Without a scope every path is kept; with one the topology listing is dropped. -/
def selectDiscoveredPaths (discovered : List RepositoryPath)
    (topology : Option (List RepositoryPath)) (scope : PackageScopeFilter) :
    ScopedRepositoryPaths where
  paths := discovered.filter (scopeContains scope)
  topologyPaths := if scope.isNone then topology else none

/-! ## Capture and revalidation -/

section Model

variable {Time Digest Analysis Error : Type} [Preorder Time] [DecidableEq Digest]
  (run : Interleaving Time Worktree LookFault) (hashing : SourceHashing Digest)

def mapError {Failure α : Type} (convert : Error → Failure) (action : Transaction Nat Error α) :
    Transaction Nat Failure α := fun step => (action.run step).mapError convert

def captureSourceStateForIndex :
    Transaction Nat LocalRustIndexError (CapturedSourceState Digest) := do
  let objectFormat ← run.query (.orElse (.sourceState .git)) (·.objectFormat)
  let head ← run.query (.orElse (.sourceState .git)) (·.head)
  let shallow ← run.query (.orElse (.sourceState .git)) (·.shallow)
  let scope ← run.query (.orElse (.sourceState .git)) (·.indexScope)
  .fallible (scope.mapError .sourceState)
  let status ← run.query (.orElse (.sourceState .git)) (·.status)
  return ⟨hashing.gitState (objectFormat, head, shallow), status⟩

def recaptureSourceStateForIndex :
    Transaction Nat LocalRustIndexError (CapturedSourceState Digest) :=
  mapError (fun
      | .sourceState .sparseWorktreeUnsupported | .sourceState .submoduleUnsupported =>
        .sourceState .concurrentSourceChange
      | error => error)
    (captureSourceStateForIndex run hashing)

def discoverPaths : Transaction Nat LocalRustIndexError (List RepositoryPath) :=
  run.query (.orElse .discovery) (·.discovered)

/-- The tracked paths, where the caller keeps a topology. -/
def discoverTrackedPaths (wanted : Bool) :
    Transaction Nat LocalRustIndexError (Option (List RepositoryPath)) :=
  if wanted then do
    let tracked ← run.query (.orElse .discovery) (·.tracked)
    return some tracked
  else pure none

/-- A path whose identity cannot be read is passed over. -/
def rejectExcludedFileAliases (excludesIdentity : Bool) (paths : List RepositoryPath) :
    Transaction Nat LocalRustIndexError PUnit :=
  if excludesIdentity then
    paths.forM fun path => do
      let aliases ← run.look (·.aliasesExcluded path)
      match aliases with
      | .ok true => throw .excludedFileAlias
      | .ok false | .error .failed => pure ()
      | .error .cancelled => throw .cancelled
      | .error .deadlineExceeded => throw .deadlineExceeded
  else pure ()

/-- The reads of the selected paths, with the bytes read so far. -/
def readSources (limits : LocalRustIndexLimits) :
    List (RepositoryPath × SourceLanguage) → Nat → Nat →
      Transaction Nat LocalRustIndexError (List ImmutableRustSource)
  | [], _, _ => pure []
  | (path, language) :: rest, ordinal, total => do
    let found ← run.query (.orElse (.sourceRead ordinal)) (·.content path)
    let content ← .present (.sourceRead ordinal) found
    .require (.sourceByteLimitExceeded limits.maxTotalSourceBytes)
      (total + content.length ≤ limits.maxTotalSourceBytes)
    let sources ← readSources limits rest (ordinal + 1) (total + content.length)
    return ⟨path, content, language⟩ :: sources

def readSelectedSources (paths : List RepositoryPath) (selection : SelectionPolicy)
    (limits : LocalRustIndexLimits) :
    Transaction Nat LocalRustIndexError (List ImmutableRustSource) := do
  let selectedPaths := paths.filterMap fun path =>
    (selectedLanguage selection path).map fun language => (path, language)
  .require (.fileLimitExceeded limits.maxFiles.toNat)
    (selectedPaths.length ≤ limits.maxFiles.toNat)
  readSources run limits selectedPaths 1 0

def sourceManifest (sources : List ImmutableRustSource) (limits : LocalRustIndexLimits) :
    Except SourceManifestError (PathManifest Digest) :=
  SourceManifest.tryFromVec
    (sources.map fun source => ⟨source.path, .regular, hashing.content source.content⟩)
    limits.maxFiles

/-- Another topology is refused; the error says whether the Git state changed too. -/
def rejectTopology :
    Option (CapturedSourceState Digest) → Transaction Nat LocalRustIndexError Unit
  | none => throw .stalePathSet
  | some before => do
    let after ← recaptureSourceStateForIndex run hashing
    .require (.sourceState .concurrentSourceChange) (after = before)
    throw .stalePathSet

def revalidatePathSet (original : ScopedRepositoryPaths) (scope : PackageScopeFilter)
    (before : Option (CapturedSourceState Digest)) : Transaction Nat LocalRustIndexError Unit := do
  let discovered ← discoverPaths run
  let topology ← discoverTrackedPaths run original.topologyPaths.isSome
  let current := selectDiscoveredPaths discovered topology scope
  .require .stalePathSet (current.paths = original.paths)
  if current.topologyPaths = original.topologyPaths then pure ()
  else rejectTopology run hashing before

/-- Reread every file and compare its digest with the first one. -/
def rereadEach (refused : Nat → LookFault → Error) (stale : Nat → Error) :
    List (RepositoryPath × Digest) → Nat → Transaction Nat Error Unit
  | [], _ => pure ()
  | (path, digest) :: rest, ordinal => do
    let found ← run.query (refused ordinal) (·.content path)
    let content ← .present (refused ordinal .failed) found
    .require (stale ordinal) (hashing.content content = digest)
    rereadEach refused stale rest (ordinal + 1)

def revalidateContent (prepared : PreparedRustIndex Digest Analysis) :
    Transaction Nat LocalRustIndexError Unit :=
  rereadEach run hashing (fun ordinal => .orElse (.revalidationRead ordinal)) .staleSourceContent
    (prepared.files.map fun file => (file.path, file.contentDigest)) 1

def mapContainedError : LookFault → LocalSourceSnapshotFenceError
  | .cancelled => .cancelled
  | .deadlineExceeded => .deadlineExceeded
  | .failed => .captureFailed

def revalidateSelectedContent (sources : List ImmutableRustSource) :
    Transaction Nat LocalSourceSnapshotFenceError Unit :=
  rereadEach run hashing (fun _ => mapContainedError) (fun _ => .sourceChanged)
    (sources.map fun source => (source.path, hashing.content source.content)) 1

def captureConfirmedLocalSourceSnapshot (request : LocalSourceSnapshotFenceRequest Digest) :
    Transaction Nat LocalSourceSnapshotFenceError (ConfirmedLocalSourceSnapshot Digest) := do
  let before ← mapError mapLocalError (captureSourceStateForIndex run hashing)
  .require .sourceChanged (before.gitState = request.identity.gitState)
  let listing ← mapError mapLocalError (discoverPaths run)
  let discovered := selectDiscoveredPaths listing none request.packageScope
  mapError mapLocalError
    (rejectExcludedFileAliases run request.excludesIdentity discovered.paths)
  let sources ← mapError mapLocalError
    (readSelectedSources run discovered.paths (.supportedLanguages request.languages)
      request.limits)
  let manifest ← .fallible
    ((sourceManifest hashing sources request.limits).mapError fun _ => .captureFailed)
  mapError mapLocalError (revalidatePathSet run hashing discovered request.packageScope none)
  revalidateSelectedContent run hashing sources
  let after ← mapError mapLocalError (recaptureSourceStateForIndex run hashing)
  .require .sourceChanged
    (after = before ∧ after.gitState = request.identity.gitState ∧
      hashing.sourceWorktreeState after.statusRecords (hashing.manifest manifest) =
        request.identity.worktreeState ∧
      hashing.snapshot request.identity (hashing.manifest manifest) = request.expectedSnapshot)
  return ⟨sources, manifest⟩

def sourceIdentityFromState (state : CapturedSourceState Digest) (selection : SelectionPolicy)
    (manifest : Digest) : RustSourceSnapshotIdentity Digest where
  gitState := state.gitState
  worktreeState :=
    match selection with
    | .rustOnly => hashing.worktreeState state.statusRecords manifest
    | .supportedLanguages _ => hashing.sourceWorktreeState state.statusRecords manifest

def preparedFile (analysis : ImmutableRustSource → Analysis) (source : ImmutableRustSource) :
    PreparedRustFile Digest Analysis :=
  ⟨source.path, hashing.content source.content, analysis source⟩

/-- Analyse the sources in path order; `analyze` refuses them or gives the analysis of each. -/
def prepareSelectedSourceArtifacts
    (analyze :
      List ImmutableRustSource → Except LocalRustIndexError (ImmutableRustSource → Analysis))
    (sources : List ImmutableRustSource) (limits : LocalRustIndexLimits) :
    Except LocalRustIndexError (PreparedRustIndex Digest Analysis) := do
  let analysis ← analyze sources
  let manifest ← (sourceManifest hashing sources limits).mapError fun _ => .preparation
  .ok
    { manifestDigest := hashing.manifest manifest
      files := (sortBy (compareOn (·.path)) sources).map (preparedFile hashing analysis) }

structure LocalPreparationContext (Analysis : Type) where
  selection : SelectionPolicy
  packageScope : PackageScopeFilter
  limits : LocalRustIndexLimits
  excludesIdentity : Bool
  analyze : List ImmutableRustSource → Except LocalRustIndexError (ImmutableRustSource → Analysis)

def revalidatePreparedIndex (context : LocalPreparationContext Analysis)
    (before : CapturedSourceState Digest) (discovered : ScopedRepositoryPaths)
    (prepared : PreparedRustIndex Digest Analysis) :
    Transaction Nat LocalRustIndexError (RustSourceSnapshotIdentity Digest) := do
  revalidatePathSet run hashing discovered context.packageScope (some before)
  revalidateContent run hashing prepared
  let after ← recaptureSourceStateForIndex run hashing
  .require (.sourceState .concurrentSourceChange) (after = before)
  return sourceIdentityFromState hashing after context.selection prepared.manifestDigest

/-- `prepare_local_index_with_exclusion_reuse_and_hook` with the fence during preparation. -/
def prepareLocalIndex (context : LocalPreparationContext Analysis) :
    Transaction Nat LocalRustIndexError (LocalRustIndexPreparation Digest Analysis) := do
  let before ← captureSourceStateForIndex run hashing
  let topology ← discoverTrackedPaths run context.packageScope.isNone
  let listing ← discoverPaths run
  let discovered := selectDiscoveredPaths listing topology context.packageScope
  rejectExcludedFileAliases run context.excludesIdentity discovered.paths
  let sources ← readSelectedSources run discovered.paths context.selection context.limits
  let prepared ← .fallible
    (prepareSelectedSourceArtifacts hashing context.analyze sources context.limits)
  let identity ← revalidatePreparedIndex run hashing context before discovered prepared
  return ⟨prepared, discovered.topologyPaths, identity⟩

end Model

/-! ## What each phase saw -/

section Fence

variable {Time Digest Error : Type} [Preorder Time]
  {run : Interleaving Time Worktree LookFault} {hashing : SourceHashing Digest}
  {before middle after : Nat} {state : CapturedSourceState Digest}
  {git : GitObjectFormat × Option (List UInt8) × Bool} {scope : PackageScopeFilter}
  {selection : SelectionPolicy} {limits : LocalRustIndexLimits}
  {original : ScopedRepositoryPaths} {sources : List ImmutableRustSource}
  {old : Option (CapturedSourceState Digest)} {refused : Nat → LookFault → Error}
  {stale : Nat → Error} {files : List (RepositoryPath × Digest)} {ordinal : Nat}

@[simp] theorem succeeds_mapError {Failure α : Type} {convert : Error → Failure}
    {action : Transaction Nat Error α} {value : α} :
    Succeeds (mapError convert action) before value after ↔
      Succeeds action before value after := by
  exact except_mapError_eq_ok_iff

/-- The parts of a captured Git and worktree state were seen between two steps. -/
structure CapturedBetween (run : Interleaving Time Worktree LookFault)
    (hashing : SourceHashing Digest) (start stop : Nat) (state : CapturedSourceState Digest)
    (git : GitObjectFormat × Option (List UInt8) × Bool) : Prop where
  hashed : state.gitState = hashing.gitState git
  objectFormat : run.Saw start stop (·.objectFormat) git.1
  head : run.Saw start stop (·.head) git.2.1
  shallow : run.Saw start stop (·.shallow) git.2.2
  status : run.Saw start stop (·.status) state.statusRecords

variable {start stop : Nat}

theorem CapturedBetween.widen
    (captured : CapturedBetween run hashing start stop state git) (earlier : before ≤ start)
    (later : stop ≤ after) : CapturedBetween run hashing before after state git :=
  ⟨captured.hashed, captured.objectFormat.widen earlier later, captured.head.widen earlier later,
    captured.shallow.widen earlier later, captured.status.widen earlier later⟩

theorem capturedBetween
    (execution : Succeeds (captureSourceStateForIndex run hashing) before state after) :
    ∃ git, CapturedBetween run hashing before after state git := by
  simp only [captureSourceStateForIndex, succeeds_bind, succeeds_fallible, succeeds_pure]
    at execution
  obtain ⟨objectFormat, _, formatSeen, head, _, headSeen, shallow, _, shallowSeen, scope, _,
    scopeSeen, _, _, ⟨-, rfl⟩, status, _, statusSeen, rfl, rfl⟩ := execution
  have formatSaw := saw_query formatSeen
  have headSaw := saw_query headSeen
  have shallowSaw := saw_query shallowSeen
  have scopeSaw := saw_query scopeSeen
  have statusSaw := saw_query statusSeen
  have := formatSaw.lt
  have := headSaw.lt
  have := shallowSaw.lt
  have := scopeSaw.lt
  have := statusSaw.lt
  exact ⟨(objectFormat, head, shallow), rfl, formatSaw.widen (by omega) (by omega),
    headSaw.widen (by omega) (by omega), shallowSaw.widen (by omega) (by omega),
    statusSaw.widen (by omega) (by omega)⟩

theorem rejectExcludedFileAliases_advances (excludesIdentity : Bool) (paths : List RepositoryPath) :
    Keeps (· ≤ ·) (rejectExcludedFileAliases run excludesIdentity paths) := by
  refine Keeps.ite (fun _ => Keeps.forM fun path _ => look_advances.bind fun answer => ?_)
    fun _ => Keeps.pure _
  intro first value last execution
  rcases answer with (_ | _ | _) | _ | _
  all_goals simp_all

theorem discoverTrackedPaths_saw {wanted : Bool} {topology : Option (List RepositoryPath)}
    (execution : Succeeds (discoverTrackedPaths run wanted) before topology after) :
    before ≤ after ∧ topology.isSome = wanted ∧
      ∀ paths ∈ topology, run.Saw before after (·.tracked) paths := by
  cases wanted with
  | false =>
    obtain ⟨rfl, rfl⟩ := succeeds_pure.mp execution
    simp
  | true =>
    obtain ⟨tracked, _, looked, ended⟩ := succeeds_bind.mp execution
    obtain ⟨rfl, rfl⟩ := succeeds_pure.mp ended
    have saw := saw_query looked
    refine ⟨saw.lt.le, rfl, ?_⟩
    rintro paths ⟨⟩
    exact saw

theorem readSources_saw {paths : List (RepositoryPath × SourceLanguage)} {total : Nat}
    (execution : Succeeds (readSources run limits paths ordinal total) before sources after) :
    before ≤ after ∧ sources.map (fun source => (source.path, source.language)) = paths ∧
      ∀ source ∈ sources, run.Saw before after (·.content source.path) (some source.content) := by
  induction paths generalizing before ordinal total sources with
  | nil =>
    obtain ⟨rfl, rfl⟩ := succeeds_pure.mp execution
    simp
  | cons first rest hypothesis =>
    obtain ⟨path, language⟩ := first
    simp only [readSources, succeeds_bind, succeeds_present, succeeds_require, succeeds_pure]
      at execution
    obtain ⟨_, _, looked, content, _, ⟨rfl, rfl⟩, _, _, ⟨-, rfl⟩, others, _, later, rfl, rfl⟩ :=
      execution
    obtain ⟨forward, named, seen⟩ := hypothesis later
    have saw := saw_query looked
    have := saw.lt
    refine ⟨by omega, by simp [named], ?_⟩
    intro source member
    rcases List.mem_cons.mp member with rfl | member
    · exact saw.widen le_rfl forward
    · exact (seen source member).widen (by omega) le_rfl

theorem readSelectedSources_saw {paths : List RepositoryPath}
    (execution :
      Succeeds (readSelectedSources run paths selection limits) before sources after) :
    before ≤ after ∧
      sources.map (fun source => (source.path, source.language)) =
        paths.filterMap (fun path => (selectedLanguage selection path).map fun language =>
          (path, language)) ∧
      ∀ source ∈ sources, run.Saw before after (·.content source.path) (some source.content) := by
  simp only [readSelectedSources, succeeds_bind, succeeds_require] at execution
  obtain ⟨_, _, ⟨-, rfl⟩, read⟩ := execution
  exact readSources_saw read

theorem rereadEach_saw [DecidableEq Digest]
    (execution :
      Succeeds (rereadEach run hashing refused stale files ordinal) before () after) :
    before ≤ after ∧ ∀ file ∈ files, ∃ content, hashing.content content = file.2 ∧
      run.Saw before after (·.content file.1) (some content) := by
  induction files generalizing before ordinal with
  | nil =>
    obtain ⟨-, rfl⟩ := succeeds_pure.mp execution
    simp
  | cons first rest hypothesis =>
    obtain ⟨path, digest⟩ := first
    simp only [rereadEach, succeeds_bind, succeeds_present, succeeds_require,
      decide_eq_true_eq] at execution
    obtain ⟨_, _, looked, content, _, ⟨rfl, rfl⟩, _, _, ⟨same, rfl⟩, later⟩ := execution
    obtain ⟨forward, seen⟩ := hypothesis later
    have saw := saw_query looked
    have := saw.lt
    refine ⟨by omega, ?_⟩
    intro file member
    rcases List.mem_cons.mp member with rfl | member
    · exact ⟨content, same, saw.widen le_rfl forward⟩
    · obtain ⟨reread, agrees, again⟩ := seen file member
      exact ⟨reread, agrees, again.widen (by omega) le_rfl⟩

/-- A confirmed path set is the listing of the step that began its confirmation,
and its topology was listed again. -/
theorem revalidatePathSet_listed [DecidableEq Digest]
    (execution : Succeeds (revalidatePathSet run hashing original scope old) before () after) :
    before < after ∧
      (run.seen before).discovered.filter (scopeContains scope) = original.paths ∧
      ∀ paths ∈ original.topologyPaths, run.Saw before after (·.tracked) paths := by
  simp only [revalidatePathSet, succeeds_bind, succeeds_require, decide_eq_true_eq] at execution
  obtain ⟨_, _, looked, topology, listed, tracked, _, _, ⟨same, rfl⟩, ended⟩ := execution
  obtain ⟨rfl, rfl⟩ := succeeds_query looked
  obtain ⟨forward, -, saw⟩ := discoverTrackedPaths_saw tracked
  split at ended
  next sameTopology =>
    obtain ⟨-, rfl⟩ := succeeds_pure.mp ended
    refine ⟨forward, same, fun paths isTopology => ?_⟩
    rw [← sameTopology] at isTopology
    have listedAgain : paths ∈ topology := by
      simp only [selectDiscoveredPaths, Option.mem_def] at isTopology ⊢
      split at isTopology
      · exact isTopology
      · cases isTopology
    exact (saw paths listedAgain).widen (Nat.le_succ before) le_rfl
  next => cases old <;> simp [rejectTopology] at ended

/-! ## One instant -/

/-- No file content, no path's membership in a listing and no Git state component
returns to an earlier value. -/
structure ComponentsNeverReturn (run : Interleaving Time Worktree LookFault) : Prop where
  content : ∀ path, NeverReturns fun time => (run.history time).content path
  discovered : ∀ path, NeverReturns fun time => path ∈ (run.history time).discovered
  tracked : ∀ path, NeverReturns fun time => path ∈ (run.history time).tracked
  objectFormat : NeverReturns fun time => (run.history time).objectFormat
  head : NeverReturns fun time => (run.history time).head
  shallow : NeverReturns fun time => (run.history time).shallow
  status : NeverReturns fun time => (run.history time).status

/-- The state that a capture of one instant gives. -/
def Worktree.sourceState (hashing : SourceHashing Digest) (world : Worktree) :
    CapturedSourceState Digest :=
  ⟨hashing.gitState (world.objectFormat, world.head, world.shallow), world.status⟩

structure SourcesOf (world : Worktree) (scope : PackageScopeFilter) (selection : SelectionPolicy)
    (sources : List ImmutableRustSource) : Prop where
  paths : ∀ path, path ∈ sources.map (·.path) ↔ path ∈ world.discovered ∧
    scopeContains scope path = true ∧ (selectedLanguage selection path).isSome = true
  bytes : ∀ source ∈ sources, world.content source.path = some source.content

/-- A topology that is kept names the tracked paths. -/
def TopologyOf (world : Worktree) (topology : Option (List RepositoryPath)) : Prop :=
  ∀ paths ∈ topology, ∀ path, path ∈ world.tracked ↔ path ∈ paths

theorem CapturedBetween.between (stable : ComponentsNeverReturn run)
    (first : ∃ git, CapturedBetween run hashing before middle state git)
    (again : ∃ git, CapturedBetween run hashing middle after state git) :
    (run.seen middle).sourceState hashing = state := by
  obtain ⟨git, first⟩ := first
  obtain ⟨other, again⟩ := again
  obtain rfl : git = other := hashing.gitState_injective (first.hashed.symm.trans again.hashed)
  rw [Worktree.sourceState, first.objectFormat.between again.objectFormat stable.objectFormat,
    first.head.between again.head stable.head,
    first.shallow.between again.shallow stable.shallow,
    first.status.between again.status stable.status, ← first.hashed]

theorem sourcesOf_listed {world : Worktree}
    (named : sources.map (fun source => (source.path, source.language)) =
      (world.discovered.filter (scopeContains scope)).filterMap fun path =>
        (selectedLanguage selection path).map fun language => (path, language))
    (bytes : ∀ source ∈ sources, world.content source.path = some source.content) :
    SourcesOf world scope selection sources where
  paths path := by
    have projected : sources.map (·.path) =
        (sources.map fun source => (source.path, source.language)).map (·.1) := by simp
    rw [projected, named]
    simp [Option.isSome_iff_exists, and_assoc]
  bytes := bytes

/-- Every source is among the prepared files that are read again. -/
theorem prepared_file_mem {Analysis : Type} {context : LocalPreparationContext Analysis}
    {prepared : PreparedRustIndex Digest Analysis}
    (accepted : prepareSelectedSourceArtifacts hashing context.analyze sources context.limits =
      .ok prepared) {source : ImmutableRustSource} (member : source ∈ sources) :
    (source.path, hashing.content source.content) ∈
      prepared.files.map fun file => (file.path, file.contentDigest) := by
  obtain ⟨analysis, -, accepted⟩ := except_bind_eq_ok_iff.mp accepted
  obtain ⟨manifest, -, accepted⟩ := except_bind_eq_ok_iff.mp accepted
  cases accepted
  rw [List.map_map]
  exact List.mem_map.mpr ⟨source, (sortBy_perm _ _).mem_iff.mpr member, rfl⟩

variable [DecidableEq Digest]

/-- Two collects that agree: at the step of the second listing all of it held. -/
theorem held_at_second_listing {captured collecting relisted reread : Nat}
    (stable : ComponentsNeverReturn run)
    (capture : Succeeds (captureSourceStateForIndex run hashing) start state captured)
    (forward : captured ≤ collecting)
    (topology : ∀ paths ∈ original.topologyPaths, run.Saw captured collecting (·.tracked) paths)
    (reads : Succeeds (readSelectedSources run original.paths selection limits) collecting sources
      middle)
    (listing : Succeeds (revalidatePathSet run hashing original scope old) middle () relisted)
    (rereads : Succeeds (rereadEach run hashing refused stale files ordinal) relisted () reread)
    (covered : ∀ source ∈ sources, (source.path, hashing.content source.content) ∈ files)
    (recapture : Succeeds (recaptureSourceStateForIndex run hashing) reread state stop) :
    start ≤ middle ∧ middle < stop ∧ SourcesOf (run.seen middle) scope selection sources ∧
      TopologyOf (run.seen middle) original.topologyPaths ∧
      (run.seen middle).sourceState hashing = state := by
  obtain ⟨git, first⟩ := capturedBetween capture
  obtain ⟨other, again⟩ := capturedBetween (succeeds_mapError.mp recapture)
  obtain ⟨onward, named, read⟩ := readSelectedSources_saw reads
  obtain ⟨further, listed, listedAgain⟩ := revalidatePathSet_listed listing
  obtain ⟨later, seen⟩ := rereadEach_saw rereads
  have := first.status.lt
  have := again.status.lt
  rw [← listed] at named
  refine ⟨by omega, by omega, sourcesOf_listed named ?_, ?_, ?_⟩
  · intro source member
    obtain ⟨content, same, saw⟩ := seen _ (covered source member)
    rw [hashing.content_injective same] at saw
    exact (read source member).between (saw.widen further.le le_rfl) (stable.content source.path)
  · intro paths isTopology path
    have first := (topology paths isTopology).map (path ∈ ·)
    have again := (listedAgain paths isTopology).map (path ∈ ·)
    exact iff_of_eq ((first.widen le_rfl onward).between again (stable.tracked path))
  · exact CapturedBetween.between stable ⟨git, first.widen le_rfl (by omega)⟩
      ⟨other, again.widen (by omega) le_rfl⟩

/--
Whatever other processes change between the steps, what a successful capture and a successful
preparation return held at the instant of one of their own steps.
-/
theorem source_snapshot_held_at_one_instant (run : Interleaving Time Worktree LookFault)
    (hashing : SourceHashing Digest) (stable : ComponentsNeverReturn run) :
    (∀ request start snapshot stop,
      Succeeds (captureConfirmedLocalSourceSnapshot run hashing request) start snapshot stop →
        ∃ step, start ≤ step ∧ step < stop ∧
          SourcesOf (run.seen step) request.packageScope (.supportedLanguages request.languages)
            snapshot.sources ∧
          sourceIdentityFromState hashing ((run.seen step).sourceState hashing)
            (.supportedLanguages request.languages) (hashing.manifest snapshot.manifest) =
              request.identity) ∧
    ∀ Analysis (context : LocalPreparationContext Analysis) start preparation stop,
      Succeeds (prepareLocalIndex run hashing context) start preparation stop →
        ∃ step, start ≤ step ∧ step < stop ∧
          (∃ sources, SourcesOf (run.seen step) context.packageScope context.selection sources ∧
            prepareSelectedSourceArtifacts hashing context.analyze sources context.limits =
              .ok preparation.prepared) ∧
          preparation.topologyPaths.isSome = context.packageScope.isNone ∧
          TopologyOf (run.seen step) preparation.topologyPaths ∧
          sourceIdentityFromState hashing ((run.seen step).sourceState hashing)
            context.selection preparation.prepared.manifestDigest = preparation.identity := by
  constructor
  · intro request start snapshot stop execution
    simp only [captureConfirmedLocalSourceSnapshot, succeeds_bind, succeeds_mapError,
      succeeds_require, succeeds_fallible, succeeds_pure, decide_eq_true_eq] at execution
    obtain ⟨state, _, captured, _, _, ⟨-, rfl⟩, listing, _, looked, _, _, passed, sources, middle,
      read, manifest, _, ⟨-, rfl⟩, _, _, listed, _, _, reread, other, _, recaptured, _, _,
      ⟨⟨rfl, sameGit, sameWorktree, -⟩, rfl⟩, rfl, rfl⟩ := execution
    have advanced := rejectExcludedFileAliases_advances _ _ _ _ _ passed
    have untracked : (selectDiscoveredPaths listing none request.packageScope).topologyPaths =
        none := ite_self _
    obtain ⟨above, below, held, -, sameState⟩ :=
      held_at_second_listing stable captured ((saw_query looked).lt.le.trans advanced)
        (by simp [untracked]) read listed reread (fun _ member => List.mem_map_of_mem member)
        recaptured
    refine ⟨middle, above, below, held, ?_⟩
    rw [sameState]
    cases identity : request.identity
    simp_all [sourceIdentityFromState]
  · intro Analysis context start preparation stop execution
    simp only [prepareLocalIndex, revalidatePreparedIndex, succeeds_bind, succeeds_require,
      succeeds_fallible, succeeds_pure, decide_eq_true_eq] at execution
    obtain ⟨state, _, captured, topology, _, tracked, listing, _, looked, _, _, passed, sources,
      middle, read, prepared, _, ⟨accepted, rfl⟩, identity, _, ⟨_, _, listed, _, _, reread, other,
        _, recaptured, _, _, ⟨rfl, rfl⟩, rfl, rfl⟩, rfl, rfl⟩ := execution
    obtain ⟨onward, wanted, sawTracked⟩ := discoverTrackedPaths_saw tracked
    have advanced :=
      (saw_query looked).lt.le.trans (rejectExcludedFileAliases_advances _ _ _ _ _ passed)
    have kept : (selectDiscoveredPaths listing topology context.packageScope).topologyPaths =
        topology := by
      simp only [selectDiscoveredPaths, ← wanted]
      cases topology <;> rfl
    obtain ⟨above, below, held, topologyHeld, sameState⟩ :=
      held_at_second_listing stable captured (onward.trans advanced)
        (by rw [kept]; exact fun paths isTopology =>
          (sawTracked paths isTopology).widen le_rfl advanced)
        read listed reread (fun _ member => prepared_file_mem accepted member) recaptured
    refine ⟨middle, above, below, ⟨sources, held, accepted⟩, ?_, topologyHeld, ?_⟩
    · exact (congrArg Option.isSome kept).trans wanted
    · rw [sameState]

end Fence

namespace BusyWorktree

/-- Digests that keep what they hash. -/
inductive Preimage where
  | content (bytes : List UInt8)
  | gitState (git : GitObjectFormat × Option (List UInt8) × Bool)
  | other
  deriving DecidableEq

def hashing : SourceHashing Preimage where
  content := .content
  gitState := .gitState
  manifest _ := .other
  worktreeState _ _ := .other
  sourceWorktreeState _ _ := .other
  snapshot _ _ := .other
  content_injective _ _ same := Preimage.content.inj same
  gitState_injective _ _ same := Preimage.gitState.inj same

def otherPath : RepositoryPath where
  bytes := [98, 46, 114, 115]
  accepted := ⟨⟨4, 1⟩, ⟨4, 1⟩, by decide⟩
  addressable := by decide

/-- The file `a.rs` changes at instant 12, `HEAD` at 18, the index at 22 and `b.rs` at 26. -/
def worktree (time : Nat) : Worktree where
  objectFormat := .sha1
  head := if time < 18 then none else some [1]
  shallow := false
  indexScope := .ok ()
  status := []
  discovered := [Sample.path, otherPath]
  tracked := if time < 22 then [Sample.path] else [Sample.path, otherPath]
  content path :=
    if path = Sample.path then
      if time < 12 then some [2] else some [3]
    else
      if time < 26 then some [4] else some [5]
  aliasesExcluded _ := false

def run : Interleaving Nat Worktree LookFault where
  history := worktree
  instant := id
  ordered := monotone_id
  fault _ := none

theorem run_neverReturns : ComponentsNeverReturn run where
  content path := by
    by_cases first : path = Sample.path <;> simp only [run, worktree, first, if_true, if_false]
    · exact neverReturns_ite 12 _ _
    · exact neverReturns_ite 26 _ _
  discovered _ := fun _ _ _ _ _ _ => rfl
  tracked path := by
    simp only [run, worktree, apply_ite (path ∈ ·)]
    exact neverReturns_ite 22 _ _
  objectFormat := fun _ _ _ _ _ _ => rfl
  head := neverReturns_ite 18 _ _
  shallow := fun _ _ _ _ _ _ => rfl
  status := fun _ _ _ _ _ _ => rfl

def request : LocalSourceSnapshotFenceRequest Preimage where
  identity := ⟨.gitState (.sha1, none, false), .other⟩
  expectedSnapshot := .other
  languages := {.rust}
  packageScope := none
  limits := ⟨2, 2⟩
  excludesIdentity := true

def context : LocalPreparationContext Unit where
  selection := .rustOnly
  packageScope := none
  limits := ⟨2, 2⟩
  excludesIdentity := true
  analyze _ := .ok fun _ => ()

/-- Each of the two calls has a file change between its steps, and the second one a listing. -/
theorem source_snapshot_held_of_busyWorktree : ∃ snapshot preparation,
    (Succeeds (captureConfirmedLocalSourceSnapshot run hashing request) 0 snapshot 18 ∧
      ∃ step, 0 ≤ step ∧ step < 18 ∧
        SourcesOf (run.seen step) none (.supportedLanguages {.rust}) snapshot.sources ∧
        sourceIdentityFromState hashing ((run.seen step).sourceState hashing)
          (.supportedLanguages {.rust}) (hashing.manifest snapshot.manifest) =
            request.identity) ∧
    Succeeds (prepareLocalIndex run hashing context) 18 preparation 38 ∧
      preparation.prepared.files.map (·.contentDigest) = [.content [3], .content [5]] ∧
      ∃ step, 18 ≤ step ∧ step < 38 ∧
        (∃ sources, SourcesOf (run.seen step) none .rustOnly sources ∧
          prepareSelectedSourceArtifacts hashing context.analyze sources context.limits =
            .ok preparation.prepared) ∧
        preparation.topologyPaths.isSome = true ∧
        TopologyOf (run.seen step) preparation.topologyPaths ∧
        sourceIdentityFromState hashing ((run.seen step).sourceState hashing)
          .rustOnly preparation.prepared.manifestDigest = preparation.identity := by
  have confirmed : ∃ snapshot,
      Succeeds (captureConfirmedLocalSourceSnapshot run hashing request) 0 snapshot 18 :=
    ⟨_, rfl⟩
  have prepares : ∃ preparation,
      Succeeds (prepareLocalIndex run hashing context) 18 preparation 38 ∧
        preparation.prepared.files.map (·.contentDigest) = [.content [3], .content [5]] :=
    ⟨_, rfl, rfl⟩
  obtain ⟨snapshot, confirmed⟩ := confirmed
  obtain ⟨preparation, prepared, digests⟩ := prepares
  have held := source_snapshot_held_at_one_instant run hashing run_neverReturns
  exact ⟨snapshot, preparation, ⟨confirmed, held.1 request 0 snapshot 18 confirmed⟩, prepared,
    digests, held.2 Unit context 18 preparation 38 prepared⟩

end BusyWorktree

end RepoWitness
