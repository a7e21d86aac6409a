import RepoWitness.PolledComputation
import RepoWitness.ComparatorOrder
import RepoWitness.ChunkedRuns
import RepoWitness.DirectedSearch
import RepoWitness.RepositoryPath
import RepoWitness.RepositoryPathText
import RepoWitness.SourceIdentity
import RepoWitness.GraphTraversalModel
import RepoWitness.GraphTraversalSort
import RepoWitness.GraphTraversalEngine
import RepoWitness.GraphTraversalAdmission
import RepoWitness.GraphTraversalImpact
import RepoWitness.GraphTraversalSteps
import RepoWitness.GraphTraversalBounds
import RepoWitness.GraphTraversalSoundness
import RepoWitness.GraphTraversalCompleteness
import RepoWitness.GraphTraversalSite
import RepoWitness.GraphTraversalEmission
import RepoWitness.GraphTraversalImpactClass
import RepoWitness.TransitionRun
import RepoWitness.WatcherSchedule
import RepoWitness.WatcherObligation
import RepoWitness.RelationalTables
import RepoWitness.RelationalChanges
import RepoWitness.RelationalSweep
import RepoWitness.StoreTransaction
import RepoWitness.WriterTables
import RepoWitness.WriterKeys
import RepoWitness.WriterTriggers
import RepoWitness.WriterKeyFacts
import RepoWitness.WorkspaceWriter
import RepoWitness.LifecycleWriter
import RepoWitness.ScipOverlayWriter
import RepoWitness.RetentionPlan
import RepoWitness.RetentionSweep
import RepoWitness.WriterRun
import RepoWitness.RetentionPlanFacts
import RepoWitness.RetentionCollection
import RepoWitness.WriterChanges
import RepoWitness.WriterEffects
import RepoWitness.SourceSlotEpochs
import RepoWitness.ScipEnclosedReferences
import RepoWitness.ActiveViews
import RepoWitness.SettledStore
import RepoWitness.RetentionSafety
import RepoWitness.RetentionClosure
import RepoWitness.RetentionAcceptance
import RepoWitness.StoreHistory
import RepoWitness.RetentionBounds
import RepoWitness.OrderFreeFolds
import RepoWitness.ConfigurationModel
import RepoWitness.ConfigurationResolution
import RepoWitness.ConfigurationTightening
import RepoWitness.EvidenceContextModel
import RepoWitness.ScopedText
import RepoWitness.Utf8Text
import RepoWitness.GroupedIndex
import RepoWitness.GraphResolutionModel
import RepoWitness.GraphResolutionEngine
import RepoWitness.GraphResolutionAdmission
import RepoWitness.GraphResolutionRule
import RepoWitness.GraphResolutionScan
import RepoWitness.GraphResolutionCandidates
import RepoWitness.GraphResolutionCorrectness
import RepoWitness.GraphRelationshipGroups
import RepoWitness.GraphResolutionAccounting
import RepoWitness.MemoryRecordModel
import RepoWitness.ContextBuild
import RepoWitness.FixedWidthDigits
import RepoWitness.FramedBytes
import RepoWitness.MemoryRecordIdText
import RepoWitness.RustCorrespondence
import RepoWitness.MemoryHeadSelection
import RepoWitness.MemoryProjectValidity
import RepoWitness.ShallowHistory
import RepoWitness.OwnedWorker
import RepoWitness.WriterOutcomes
import RepoWitness.LinkedDirectory
import RepoWitness.MemoryRecordFiles
import RepoWitness.MemoryRecordWriter
import RepoWitness.MemoryRecordChain
import RepoWitness.MemoryRecordRecovery
import RepoWitness.WatcherRetryBudget
import RepoWitness.WatcherHints
import RepoWitness.PollingRunner
import RepoWitness.RetentionReplanning
import RepoWitness.RetentionRounds
import RepoWitness.SourceReconciliation
import RepoWitness.CanonicalPreimages
import RepoWitness.EvidenceContextAllocation
import RepoWitness.ScipWireModel
import RepoWitness.ScipSourcePositions
import RepoWitness.InterleavedObservation
import RepoWitness.SourceSnapshotFence
import RepoWitness.BoundedLineReader
import RepoWitness.RustReferenceSites
import RepoWitness.PackageScope
