import Mathlib.Data.Finset.Fold
import RepoWitness.ConfigurationModel
import RepoWitness.OrderFreeFolds

namespace RepoWitness

/-!
# Deterministic configuration resolution

`resolve_configuration` arranges the layers by precedence, lets each replace the
ordinary preferences and tighten the policy, and at the end caps the preferences
by the policy.  The digest hashes the effective values; the hash function is a
parameter.
-/

def configurationSchemaVersion : UInt16 := 1

def configurationResolverVersion : UInt16 := 1

def configurationDigestVersion : UInt16 := 1

def defaultCodeSearchResults : UInt64 := 20

def defaultContextBuildBudgetUnits : UInt64 := 65536

def defaultGraphDepth : UInt64 := 8

def defaultGraphResults : UInt64 := 1000

def defaultWatcherPollIntervalMs : UInt64 := 2000

def defaultConfigurationRetainedGenerationsPerSourceSlot : UInt64 := 2

def defaultConfigurationRetentionGenerationCandidates : UInt64 := 64

def defaultConfigurationRetentionRows : UInt64 := 1000000

def defaultConfigurationRetentionBytes : UInt64 := 536870912

inductive ConfigurationResolutionError where
  | tooManyLayers
  | duplicateLayer (kind : ConfigurationLayerKind)
  deriving DecidableEq

/-! ## Resolved values -/

/-- One resolved preference with supplier and optional policy cap. -/
structure ResolvedPreference (α : Type) where
  requested : α
  effective : α
  suppliedBy : ConfigurationLayerKind
  constrainedBy : List ConfigurationLayerKind
  deriving DecidableEq

structure ResolvedToolProfilePreference where
  requested : McpToolProfile
  suppliedBy : ConfigurationLayerKind
  authorized : Option McpToolProfile
  constrainedBy : List ConfigurationLayerKind
  deriving DecidableEq

structure PolicyValue (α : Type) where
  effective : α
  constrainingLayers : List ConfigurationLayerKind
  deriving DecidableEq

structure EffectiveConfigurationPreferences where
  queryResults : ResolvedPreference UInt64
  contextBytes : ResolvedPreference UInt64
  graphDepth : ResolvedPreference UInt64
  graphResults : ResolvedPreference UInt64
  watcherPollIntervalMs : ResolvedPreference UInt64
  mcpToolProfile : ResolvedToolProfilePreference
  deriving DecidableEq

structure EffectiveRetentionConfiguration where
  retainedGenerationsPerSourceSlot : PolicyValue UInt64
  maxGenerationCandidates : PolicyValue UInt64
  maxRows : PolicyValue UInt64
  maxBytes : PolicyValue UInt64
  deriving DecidableEq

structure EffectiveConfigurationPolicy where
  allowedLanguages : PolicyValue (Finset SourceLanguage)
  allowedMcpToolProfiles : PolicyValue (Finset McpToolProfile)
  maxSourceFileBytes : PolicyValue UInt64
  maxSourceFiles : PolicyValue UInt64
  maxQueryResults : PolicyValue UInt64
  maxContextBytes : PolicyValue UInt64
  maxGraphDepth : PolicyValue UInt64
  maxGraphResults : PolicyValue UInt64
  denyMemoryWrites : PolicyValue Bool
  followSymlinks : PolicyValue Bool
  retention : EffectiveRetentionConfiguration
  deriving DecidableEq

structure ResolvedConfiguration (Digest : Type) where
  schemaVersion : UInt16
  resolverVersion : UInt16
  profile : ConfigurationProfile
  profileSuppliedBy : ConfigurationLayerKind
  preferences : EffectiveConfigurationPreferences
  policy : EffectiveConfigurationPolicy
  digest : Digest
  deriving DecidableEq

/-! ## Ordinary preferences -/

structure PreferenceCandidate (α : Type) where
  value : α
  suppliedBy : ConfigurationLayerKind

structure PreferenceAccumulator where
  queryResults : PreferenceCandidate UInt64
  contextBytes : PreferenceCandidate UInt64
  graphDepth : PreferenceCandidate UInt64
  graphResults : PreferenceCandidate UInt64
  watcherPollIntervalMs : PreferenceCandidate UInt64
  mcpToolProfile : PreferenceCandidate McpToolProfile

def PreferenceAccumulator.profileDefaults
    (_profile : ConfigurationProfile) : PreferenceAccumulator where
  queryResults := ⟨defaultCodeSearchResults, .namedProfile⟩
  contextBytes := ⟨defaultContextBuildBudgetUnits, .namedProfile⟩
  graphDepth := ⟨defaultGraphDepth, .namedProfile⟩
  graphResults := ⟨defaultGraphResults, .namedProfile⟩
  watcherPollIntervalMs := ⟨defaultWatcherPollIntervalMs, .namedProfile⟩
  mcpToolProfile := ⟨.canonical, .namedProfile⟩

def PreferenceCandidate.replace {α : Type} (candidate : PreferenceCandidate α) (value : Option α)
    (suppliedBy : ConfigurationLayerKind) : PreferenceCandidate α :=
  match value with
  | none => candidate
  | some value => ⟨value, suppliedBy⟩

def PreferenceAccumulator.apply (accumulator : PreferenceAccumulator)
    (layer : ConfigurationLayerKind) (preferences : ConfigurationPreferenceOverrides) :
    PreferenceAccumulator where
  queryResults := accumulator.queryResults.replace preferences.queryResults layer
  contextBytes := accumulator.contextBytes.replace preferences.contextBytes layer
  graphDepth := accumulator.graphDepth.replace preferences.graphDepth layer
  graphResults := accumulator.graphResults.replace preferences.graphResults layer
  watcherPollIntervalMs :=
    accumulator.watcherPollIntervalMs.replace preferences.watcherPollIntervalMs layer
  mcpToolProfile := accumulator.mcpToolProfile.replace preferences.mcpToolProfile layer

/-! ## Monotonic policy -/

structure PolicyAccumulatorValue (α : Type) where
  effective : α
  constrainingLayers : List ConfigurationLayerKind

namespace PolicyAccumulatorValue

def builtIn {α : Type} (effective : α) : PolicyAccumulatorValue α := ⟨effective, [.builtInDefaults]⟩

def finish {α : Type} (value : PolicyAccumulatorValue α) : PolicyValue α :=
  ⟨value.effective, value.constrainingLayers⟩

def pushUnique (layers : List ConfigurationLayerKind)
    (layer : ConfigurationLayerKind) : List ConfigurationLayerKind :=
  if layer ∈ layers then layers else layers ++ [layer]

def maximize (value : PolicyAccumulatorValue UInt64) (requested : Option UInt64)
    (layer : ConfigurationLayerKind) : PolicyAccumulatorValue UInt64 :=
  match requested with
  | none => value
  | some requested =>
    if value.effective < requested then
      ⟨requested, pushUnique value.constrainingLayers layer⟩
    else if requested = value.effective then
      { value with
        constrainingLayers := pushUnique value.constrainingLayers layer }
    else
      value

def minimize (value : PolicyAccumulatorValue UInt64) (requested : Option UInt64)
    (layer : ConfigurationLayerKind) : PolicyAccumulatorValue UInt64 :=
  match requested with
  | none => value
  | some requested =>
    if requested < value.effective then
      ⟨requested, pushUnique value.constrainingLayers layer⟩
    else if requested = value.effective then
      { value with
        constrainingLayers := pushUnique value.constrainingLayers layer }
    else
      value

def intersect {α : Type} [DecidableEq α] (value : PolicyAccumulatorValue (Finset α))
    (requested : Option (Finset α)) (layer : ConfigurationLayerKind) :
    PolicyAccumulatorValue (Finset α) :=
  match requested with
  | none => value
  | some requested =>
    let intersection := value.effective ∩ requested
    if intersection ≠ value.effective ∨
        requested = value.effective then
      ⟨intersection, pushUnique value.constrainingLayers layer⟩
    else
      value

/-- A request to deny sets the flag; nothing clears it. -/
def deny (value : PolicyAccumulatorValue Bool) (requested : Option Bool)
    (layer : ConfigurationLayerKind) : PolicyAccumulatorValue Bool :=
  if requested = some true then
    ⟨true, pushUnique value.constrainingLayers layer⟩
  else
    value

/-- A request not to follow is recorded; the value stays. -/
def refuse (value : PolicyAccumulatorValue Bool) (requested : Option Bool)
    (layer : ConfigurationLayerKind) : PolicyAccumulatorValue Bool :=
  if requested = some false then
    { value with
      constrainingLayers := pushUnique value.constrainingLayers layer }
  else
    value

end PolicyAccumulatorValue

structure RetentionPolicyAccumulator where
  retainedGenerationsPerSourceSlot : PolicyAccumulatorValue UInt64
  maxGenerationCandidates : PolicyAccumulatorValue UInt64
  maxRows : PolicyAccumulatorValue UInt64
  maxBytes : PolicyAccumulatorValue UInt64

structure PolicyAccumulator where
  allowedLanguages : PolicyAccumulatorValue (Finset SourceLanguage)
  allowedMcpToolProfiles : PolicyAccumulatorValue (Finset McpToolProfile)
  maxSourceFileBytes : PolicyAccumulatorValue UInt64
  maxSourceFiles : PolicyAccumulatorValue UInt64
  maxQueryResults : PolicyAccumulatorValue UInt64
  maxContextBytes : PolicyAccumulatorValue UInt64
  maxGraphDepth : PolicyAccumulatorValue UInt64
  maxGraphResults : PolicyAccumulatorValue UInt64
  denyMemoryWrites : PolicyAccumulatorValue Bool
  followSymlinks : PolicyAccumulatorValue Bool
  retention : RetentionPolicyAccumulator

namespace PolicyAccumulator

def builtIn : PolicyAccumulator where
  allowedLanguages := PolicyAccumulatorValue.builtIn supportedConfigurationLanguages.toFinset
  allowedMcpToolProfiles := PolicyAccumulatorValue.builtIn {McpToolProfile.canonical}
  maxSourceFileBytes := PolicyAccumulatorValue.builtIn maxConfigurationSourceFileBytes
  maxSourceFiles := PolicyAccumulatorValue.builtIn maxConfigurationSourceFiles
  maxQueryResults := PolicyAccumulatorValue.builtIn maxConfigurationQueryResults
  maxContextBytes := PolicyAccumulatorValue.builtIn maxConfigurationContextBytes
  maxGraphDepth := PolicyAccumulatorValue.builtIn maxConfigurationGraphDepth
  maxGraphResults := PolicyAccumulatorValue.builtIn maxConfigurationGraphResults
  denyMemoryWrites := ⟨false, []⟩
  followSymlinks := PolicyAccumulatorValue.builtIn false
  retention :=
    { retainedGenerationsPerSourceSlot :=
        PolicyAccumulatorValue.builtIn defaultConfigurationRetainedGenerationsPerSourceSlot
      maxGenerationCandidates :=
        PolicyAccumulatorValue.builtIn defaultConfigurationRetentionGenerationCandidates
      maxRows := PolicyAccumulatorValue.builtIn defaultConfigurationRetentionRows
      maxBytes := PolicyAccumulatorValue.builtIn defaultConfigurationRetentionBytes }

def apply (accumulator : PolicyAccumulator) (layer : ConfigurationLayerKind)
    (policy : ConfigurationPolicyOverrides) : PolicyAccumulator where
  allowedLanguages := accumulator.allowedLanguages.intersect policy.allowedLanguages layer
  allowedMcpToolProfiles :=
    accumulator.allowedMcpToolProfiles.intersect policy.allowedMcpToolProfiles layer
  maxSourceFileBytes := accumulator.maxSourceFileBytes.minimize policy.maxSourceFileBytes layer
  maxSourceFiles := accumulator.maxSourceFiles.minimize policy.maxSourceFiles layer
  maxQueryResults := accumulator.maxQueryResults.minimize policy.maxQueryResults layer
  maxContextBytes := accumulator.maxContextBytes.minimize policy.maxContextBytes layer
  maxGraphDepth := accumulator.maxGraphDepth.minimize policy.maxGraphDepth layer
  maxGraphResults := accumulator.maxGraphResults.minimize policy.maxGraphResults layer
  denyMemoryWrites := accumulator.denyMemoryWrites.deny policy.denyMemoryWrites layer
  followSymlinks := accumulator.followSymlinks.refuse policy.followSymlinks layer
  retention :=
    { retainedGenerationsPerSourceSlot :=
        accumulator.retention.retainedGenerationsPerSourceSlot.maximize
          policy.retention.retainedGenerationsPerSourceSlot layer
      maxGenerationCandidates :=
        accumulator.retention.maxGenerationCandidates.minimize
          policy.retention.maxGenerationCandidates layer
      maxRows := accumulator.retention.maxRows.minimize policy.retention.maxRows layer
      maxBytes := accumulator.retention.maxBytes.minimize policy.retention.maxBytes layer }

def finish (accumulator : PolicyAccumulator) : EffectiveConfigurationPolicy where
  allowedLanguages := accumulator.allowedLanguages.finish
  allowedMcpToolProfiles := accumulator.allowedMcpToolProfiles.finish
  maxSourceFileBytes := accumulator.maxSourceFileBytes.finish
  maxSourceFiles := accumulator.maxSourceFiles.finish
  maxQueryResults := accumulator.maxQueryResults.finish
  maxContextBytes := accumulator.maxContextBytes.finish
  maxGraphDepth := accumulator.maxGraphDepth.finish
  maxGraphResults := accumulator.maxGraphResults.finish
  denyMemoryWrites := accumulator.denyMemoryWrites.finish
  followSymlinks := accumulator.followSymlinks.finish
  retention :=
    { retainedGenerationsPerSourceSlot :=
        accumulator.retention.retainedGenerationsPerSourceSlot.finish
      maxGenerationCandidates := accumulator.retention.maxGenerationCandidates.finish
      maxRows := accumulator.retention.maxRows.finish
      maxBytes := accumulator.retention.maxBytes.finish }

end PolicyAccumulator

/-! ## Capping the preferences -/

def uncapped {α : Type} (candidate : PreferenceCandidate α) : ResolvedPreference α :=
  ⟨candidate.value, candidate.value, candidate.suppliedBy, []⟩

def cap (candidate : PreferenceCandidate UInt64) (ceiling : PolicyAccumulatorValue UInt64) :
    ResolvedPreference UInt64 :=
  if ceiling.effective < candidate.value then
    ⟨candidate.value, ceiling.effective, candidate.suppliedBy, ceiling.constrainingLayers⟩
  else
    uncapped candidate

def authorizeToolProfile (candidate : PreferenceCandidate McpToolProfile)
    (allowed : PolicyAccumulatorValue (Finset McpToolProfile)) :
    ResolvedToolProfilePreference :=
  let sourceIsAuthorized :=
    candidate.value = .canonical ∨ candidate.suppliedBy = .user ∨ candidate.suppliedBy = .cli
  if sourceIsAuthorized ∧ candidate.value ∈ allowed.effective then
    ⟨candidate.value, candidate.suppliedBy, some candidate.value, []⟩
  else
    ⟨candidate.value, candidate.suppliedBy, none, allowed.constrainingLayers⟩

def PreferenceAccumulator.finish (accumulator : PreferenceAccumulator)
    (policy : PolicyAccumulator) : EffectiveConfigurationPreferences where
  queryResults := cap accumulator.queryResults policy.maxQueryResults
  contextBytes := cap accumulator.contextBytes policy.maxContextBytes
  graphDepth := cap accumulator.graphDepth policy.maxGraphDepth
  graphResults := cap accumulator.graphResults policy.maxGraphResults
  watcherPollIntervalMs := uncapped accumulator.watcherPollIntervalMs
  mcpToolProfile := authorizeToolProfile accumulator.mcpToolProfile policy.allowedMcpToolProfiles

/-! ## Canonical digest -/

/-- `u16::to_be_bytes`. -/
def bigEndian16 (value : UInt16) : List UInt8 := [(value >>> 8).toUInt8, value.toUInt8]

/-- `u64::to_be_bytes`. -/
def bigEndian64 (value : UInt64) : List UInt8 :=
  [(value >>> 56).toUInt8, (value >>> 48).toUInt8,
    (value >>> 40).toUInt8, (value >>> 32).toUInt8,
    (value >>> 24).toUInt8, (value >>> 16).toUInt8,
    (value >>> 8).toUInt8, value.toUInt8]

/-- The bytes `RepoWitness\0resolved-semantic-configuration\0`. -/
def configurationDigestDomain : List UInt8 :=
  "RepoWitness\x00resolved-semantic-configuration\x00".toUTF8.toList

def profileTag : ConfigurationProfile → UInt8
  | .localProfile => 1

def toolProfileTag : McpToolProfile → UInt8
  | .canonical => 1
  | .minimal => 2

def languageBit : SourceLanguage → UInt8
  | .rust => 1
  | .go => 2
  | .typescript => 4
  | .tsx => 8
  | .python => 16

def toolProfileBit : McpToolProfile → UInt8
  | .canonical => 1
  | .minimal => 2

instance orCommutative : Std.Commutative fun first second : UInt8 => first ||| second :=
  ⟨UInt8.or_comm⟩

instance orAssociative : Std.Associative fun first second : UInt8 => first ||| second :=
  ⟨UInt8.or_assoc⟩

def languageMask (languages : Finset SourceLanguage) : UInt8 :=
  languages.fold (· ||| ·) 0 languageBit

def toolProfileMask (profiles : Finset McpToolProfile) : UInt8 :=
  profiles.fold (· ||| ·) 0 toolProfileBit

/-- What `canonical_configuration_digest` feeds to the hasher. -/
def canonicalConfigurationBytes (schemaVersion resolverVersion : UInt16)
    (profile : ConfigurationProfile) (preferences : EffectiveConfigurationPreferences)
    (policy : EffectiveConfigurationPolicy) : List UInt8 :=
  configurationDigestDomain ++
  bigEndian16 configurationDigestVersion ++
  bigEndian16 schemaVersion ++
  bigEndian16 resolverVersion ++
  [profileTag profile] ++
  bigEndian64 preferences.queryResults.effective ++
  bigEndian64 preferences.contextBytes.effective ++
  bigEndian64 preferences.graphDepth.effective ++
  bigEndian64 preferences.graphResults.effective ++
  bigEndian64 preferences.watcherPollIntervalMs.effective ++
  [toolProfileTag preferences.mcpToolProfile.requested] ++
  [preferences.mcpToolProfile.authorized.elim 0 toolProfileTag] ++
  [languageMask policy.allowedLanguages.effective] ++
  [toolProfileMask policy.allowedMcpToolProfiles.effective] ++
  bigEndian64 policy.maxSourceFileBytes.effective ++
  bigEndian64 policy.maxSourceFiles.effective ++
  bigEndian64 policy.maxQueryResults.effective ++
  bigEndian64 policy.maxContextBytes.effective ++
  bigEndian64 policy.maxGraphDepth.effective ++
  bigEndian64 policy.maxGraphResults.effective ++
  [policy.denyMemoryWrites.effective.toUInt8] ++
  [policy.followSymlinks.effective.toUInt8] ++
  bigEndian64 policy.retention.retainedGenerationsPerSourceSlot.effective ++
  bigEndian64 policy.retention.maxGenerationCandidates.effective ++
  bigEndian64 policy.retention.maxRows.effective ++
  bigEndian64 policy.retention.maxBytes.effective

/-! ## Resolution -/

/-- The last layer in precedence order that selects a profile. -/
def resolveProfile (layers : List ConfigurationLayer) :
    ConfigurationProfile × ConfigurationLayerKind :=
  layers.foldl
    (fun selected layer =>
      match layer.profile with
      | none => selected
      | some profile => (profile, layer.kind))
    (.localProfile, .builtInDefaults)

def adjacentDuplicate : List ConfigurationLayerKind → Option ConfigurationLayerKind
  | first :: second :: rest =>
    if first = second then
      some first
    else
      adjacentDuplicate (second :: rest)
  | _ => none

def orderLayers (layers : List ConfigurationLayer) : List ConfigurationLayer :=
  sortBy (compareOn fun layer => layer.kind.precedence) layers

def resolveOrdered {Digest : Type} (sha256 : List UInt8 → Digest)
    (ordered : List ConfigurationLayer) : ResolvedConfiguration Digest :=
  let (profile, profileSuppliedBy) := resolveProfile ordered
  let accumulated :=
    ordered.foldl (fun accumulator layer => accumulator.apply layer.kind layer.preferences)
      (PreferenceAccumulator.profileDefaults profile)
  let constrained :=
    ordered.foldl (fun accumulator layer => accumulator.apply layer.kind layer.policy)
      PolicyAccumulator.builtIn
  let preferences := accumulated.finish constrained
  let policy := constrained.finish
  { schemaVersion := configurationSchemaVersion, resolverVersion := configurationResolverVersion
    profile := profile
    profileSuppliedBy := profileSuppliedBy
    preferences := preferences
    policy := policy
    digest := sha256 (canonicalConfigurationBytes configurationSchemaVersion
          configurationResolverVersion profile preferences policy) }

/-- Resolve preferences and monotonic policy into one canonical result. -/
def resolveConfiguration {Digest : Type} (sha256 : List UInt8 → Digest)
    (layers : List ConfigurationLayer) :
    Except ConfigurationResolutionError (ResolvedConfiguration Digest) :=
  if maxConfigurationFileLayers < layers.length then
    .error .tooManyLayers
  else
    let ordered := orderLayers layers
    match adjacentDuplicate (ordered.map (·.kind)) with
    | some kind => .error (.duplicateLayer kind)
    | none => .ok (resolveOrdered sha256 ordered)

end RepoWitness
