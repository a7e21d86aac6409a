import Mathlib.Data.Finset.Basic
import Mathlib.Data.Finset.Card
import Mathlib.Data.UInt
import RepoWitness.WriterTables

namespace RepoWitness

/-!
# Configuration layers

A layer carries validated preference overrides and monotonic policy requests of
one provenance category.  The validated ranges are fields, so a layer outside
the schema cannot be built.
-/

def maxConfigurationFileLayers : Nat := 5

def maxConfigurationQueryResults : UInt64 := 100

def maxConfigurationContextBytes : UInt64 := 1048576

def maxConfigurationGraphDepth : UInt64 := 64

def maxConfigurationGraphResults : UInt64 := 10000

def maxConfigurationSourceFileBytes : UInt64 := 268435456

def maxConfigurationSourceFiles : UInt64 := 1000000

def minConfigurationWatcherPollIntervalMs : UInt64 := 100

def maxConfigurationWatcherPollIntervalMs : UInt64 := 86400000

def maxConfigurationRetainedGenerationsPerSourceSlot : UInt64 := 4096

def maxConfigurationRetentionGenerationCandidates : UInt64 := 4096

def maxConfigurationRetentionRows : UInt64 := 100000000

def maxConfigurationRetentionBytes : UInt64 := 17179869184

/-- Built-in named configuration profile. -/
inductive ConfigurationProfile where
  | localProfile
  deriving DecidableEq

/-- Fixed MCP tool surface selected before server initialization. -/
inductive McpToolProfile where
  | canonical
  | minimal
  deriving DecidableEq

/-- Stable provenance category of one value or constraint. -/
inductive ConfigurationLayerKind where
  | builtInDefaults
  | namedProfile
  | user
  | workspace
  | repository
  | environment
  | cli
  deriving DecidableEq

namespace ConfigurationLayerKind

def precedence : ConfigurationLayerKind → Nat
  | .builtInDefaults => 0
  | .namedProfile => 1
  | .user => 2
  | .workspace => 3
  | .repository => 4
  | .environment => 5
  | .cli => 6

def isCallerLayer : ConfigurationLayerKind → Bool
  | .builtInDefaults | .namedProfile => false
  | _ => true

def canSelectProfile : ConfigurationLayerKind → Bool
  | .user | .cli => true
  | _ => false

theorem precedence_injective : Function.Injective precedence := by
  intro first second same
  cases first <;> cases second <;> first | rfl | cases same

end ConfigurationLayerKind

/-- A supplied value is positive and at most its schema maximum. -/
def PositiveMaximum (maximum : UInt64) (value : Option UInt64) : Prop :=
  ∀ requested, value = some requested → requested ≠ 0 ∧ requested ≤ maximum

/-- A supplied watcher interval lies within its schema range. -/
def WatcherPollInterval (value : Option UInt64) : Prop :=
  ∀ requested, value = some requested →
    minConfigurationWatcherPollIntervalMs ≤ requested ∧
      requested ≤ maxConfigurationWatcherPollIntervalMs

/-- Validated ordinary preference overrides of one layer. -/
structure ConfigurationPreferenceOverrides where
  queryResults : Option UInt64
  contextBytes : Option UInt64
  graphDepth : Option UInt64
  graphResults : Option UInt64
  watcherPollIntervalMs : Option UInt64
  mcpToolProfile : Option McpToolProfile
  queryResultsValid : PositiveMaximum maxConfigurationQueryResults queryResults
  contextBytesValid : PositiveMaximum maxConfigurationContextBytes contextBytes
  graphDepthValid : PositiveMaximum maxConfigurationGraphDepth graphDepth
  graphResultsValid : PositiveMaximum maxConfigurationGraphResults graphResults
  watcherPollIntervalMsValid : WatcherPollInterval watcherPollIntervalMs
  deriving DecidableEq

/-- No preference is supplied. -/
def ConfigurationPreferenceOverrides.default : ConfigurationPreferenceOverrides where
  queryResults := none
  contextBytes := none
  graphDepth := none
  graphResults := none
  watcherPollIntervalMs := none
  mcpToolProfile := none
  queryResultsValid := fun _ same => nomatch same
  contextBytesValid := fun _ same => nomatch same
  graphDepthValid := fun _ same => nomatch same
  graphResultsValid := fun _ same => nomatch same
  watcherPollIntervalMsValid := fun _ same => nomatch same

/-- Validated monotonic generation-retention requests of one layer. -/
structure RetentionConfigurationOverrides where
  retainedGenerationsPerSourceSlot : Option UInt64
  maxGenerationCandidates : Option UInt64
  maxRows : Option UInt64
  maxBytes : Option UInt64
  retainedGenerationsPerSourceSlotValid :
    PositiveMaximum maxConfigurationRetainedGenerationsPerSourceSlot
      retainedGenerationsPerSourceSlot
  maxGenerationCandidatesValid :
    PositiveMaximum maxConfigurationRetentionGenerationCandidates maxGenerationCandidates
  maxRowsValid : PositiveMaximum maxConfigurationRetentionRows maxRows
  maxBytesValid : PositiveMaximum maxConfigurationRetentionBytes maxBytes
  deriving DecidableEq

/-- No retention bound is requested. -/
def RetentionConfigurationOverrides.default : RetentionConfigurationOverrides where
  retainedGenerationsPerSourceSlot := none
  maxGenerationCandidates := none
  maxRows := none
  maxBytes := none
  retainedGenerationsPerSourceSlotValid := fun _ same => nomatch same
  maxGenerationCandidatesValid := fun _ same => nomatch same
  maxRowsValid := fun _ same => nomatch same
  maxBytesValid := fun _ same => nomatch same

/-- Validated monotonic policy requests of one layer. -/
structure ConfigurationPolicyOverrides where
  allowedLanguages : Option (Finset SourceLanguage)
  allowedMcpToolProfiles : Option (Finset McpToolProfile)
  maxSourceFileBytes : Option UInt64
  maxSourceFiles : Option UInt64
  maxQueryResults : Option UInt64
  maxContextBytes : Option UInt64
  maxGraphDepth : Option UInt64
  maxGraphResults : Option UInt64
  denyMemoryWrites : Option Bool
  followSymlinks : Option Bool
  retention : RetentionConfigurationOverrides
  maxSourceFileBytesValid : PositiveMaximum maxConfigurationSourceFileBytes maxSourceFileBytes
  maxSourceFilesValid : PositiveMaximum maxConfigurationSourceFiles maxSourceFiles
  maxQueryResultsValid : PositiveMaximum maxConfigurationQueryResults maxQueryResults
  maxContextBytesValid : PositiveMaximum maxConfigurationContextBytes maxContextBytes
  maxGraphDepthValid : PositiveMaximum maxConfigurationGraphDepth maxGraphDepth
  maxGraphResultsValid : PositiveMaximum maxConfigurationGraphResults maxGraphResults
  followSymlinksValid : followSymlinks ≠ some true
  deriving DecidableEq

def supportedConfigurationLanguages : List SourceLanguage :=
  [.rust, .go, .typescript, .tsx, .python]

/-- No policy is requested. -/
def ConfigurationPolicyOverrides.default : ConfigurationPolicyOverrides where
  allowedLanguages := none
  allowedMcpToolProfiles := none
  maxSourceFileBytes := none
  maxSourceFiles := none
  maxQueryResults := none
  maxContextBytes := none
  maxGraphDepth := none
  maxGraphResults := none
  denyMemoryWrites := none
  followSymlinks := none
  retention := .default
  maxSourceFileBytesValid := fun _ same => nomatch same
  maxSourceFilesValid := fun _ same => nomatch same
  maxQueryResultsValid := fun _ same => nomatch same
  maxContextBytesValid := fun _ same => nomatch same
  maxGraphDepthValid := fun _ same => nomatch same
  maxGraphResultsValid := fun _ same => nomatch same
  followSymlinksValid := fun same => nomatch same

structure ConfigurationLayer where
  kind : ConfigurationLayerKind
  profile : Option ConfigurationProfile
  preferences : ConfigurationPreferenceOverrides
  policy : ConfigurationPolicyOverrides
  callerLayer : kind.isCallerLayer = true
  profileSelection : profile.isSome = true → kind.canSelectProfile = true
  deriving DecidableEq

end RepoWitness
