import RepoWitness.OrderFreeFolds
import RepoWitness.ScopedText
import RepoWitness.SourceIdentity

namespace RepoWitness

open Std

/-!
# Engineering-memory records

The semantic record of one memory version, with the checks its constructors
make as fields.  Texts are sequences of scalar values measured in UTF-8 bytes;
opaque identities are bit vectors of their exact width, whose numeric order is
the bytewise order of the source.
-/

def memoryRecordSchemaVersion : Nat := 1

def memoryRecordProfileV2SchemaVersion : Nat := 2

def maxMemorySourceBytes : Nat := 8 * 1024 * 1024

def maxMemoryParents : Nat := 8

def maxMemoryEvidence : Nat := 16

def maxMemoryRelationships : Nat := 16

def maxMemoryCommits : Nat := 16

inductive MemoryTextField where
  | title
  | body
  | actorId
  | auditActorId
  | symbolName
  | qualifiedName
  | producerId
  | producerVersion
  deriving DecidableEq

inductive MemoryIntegerField where
  | evidenceIndex
  | factOrdinal
  | recordedAtUnixMillis
  deriving DecidableEq

inductive MemoryCollectionField where
  | parents
  | evidence
  | relationships
  | commits
  deriving DecidableEq

inductive MemoryRecordError where
  | invalidSchemaVersion
  | invalidRecordId
  | invalidDisplayRevision
  | invalidText (field : MemoryTextField)
  | invalidInteger (field : MemoryIntegerField)
  | invalidCollection (field : MemoryCollectionField)
  | invalidValidity
  | invalidEvidence
  | invalidTombstone
  deriving DecidableEq

/-- Opaque 128-bit identity of one logical memory record. -/
abbrev MemoryRecordId := BitVec 128

/-- The canonical digest that identifies one memory version. -/
abbrev CanonicalMemoryDigest := Bytes32

/-! ## Bounded numbers and texts -/

/-- Human-facing revision number, excluded from semantic identity. -/
structure MemoryDisplayRevision where
  value : UInt32
  nonzero : value ≠ 0
  deriving DecidableEq

/-- A number that every RFC 8785 implementation represents exactly. -/
structure InteroperableInteger where
  value : Nat
  bounded : value ≤ maxMemoryInteroperableInteger

instance : DecidableEq InteroperableInteger := fun first second =>
  decidable_of_iff (first.value = second.value) (by cases first; cases second; simp)

abbrev MemoryEvidenceIndex := InteroperableInteger

abbrev MemoryFactOrdinal := InteroperableInteger

def lengthWithin (limit : Nat) (value : Text) : Bool :=
  decide (1 ≤ value.byteLength ∧ value.byteLength ≤ limit)

def validTitle (value : Text) : Bool := lengthWithin 256 value &&
    !value.any (fun character => [0, 0x0A, 0x0D, 0x85, 0x2028, 0x2029].contains character.toNat)

def validBody (value : Text) : Bool :=
  lengthWithin (16 * 1024) value && !value.any (fun character => [0, 0x0D].contains character.toNat)

def validPrintableAscii (limit : Nat) (value : Text) : Bool :=
  lengthWithin limit value &&
    value.all (fun character => decide (0x20 ≤ character.toNat ∧ character.toNat ≤ 0x7E))

def validActor : Text → Bool := validPrintableAscii 128

def validProducer : Text → Bool := validPrintableAscii 128

def validSourceName (limit : Nat) (value : Text) : Bool :=
  lengthWithin limit value && !value.any (fun character => [0, 0x0A, 0x0D].contains character.toNat)

def validSymbolName : Text → Bool := validSourceName 256

def validQualifiedName : Text → Bool := validSourceName 1024

/-- A text that passed the validator of its field. -/
structure MemoryText (valid : Text → Bool) where
  text : Text
  accepted : valid text = true
  deriving DecidableEq

abbrev MemoryTitle := MemoryText validTitle

abbrev MemoryBody := MemoryText validBody

abbrev MemoryActorId := MemoryText validActor

abbrev MemorySymbolName := MemoryText validSymbolName

abbrev MemoryQualifiedName := MemoryText validQualifiedName

abbrev MemoryProducerId := MemoryText validProducer

abbrev MemoryProducerVersion := MemoryText validProducer

/-! ## Categories -/

inductive MemoryKind where
  | decision
  | failure
  | fact
  | procedure
  | episode
  | preference
  | policy
  deriving DecidableEq

def MemoryKind.isV1 : MemoryKind → Bool
  | .decision | .failure => true
  | _ => false

def MemoryKind.isV2 : MemoryKind → Bool
  | .decision | .failure | .fact | .procedure | .episode | .preference
  | .policy => true

inductive MemoryProvenanceOrigin where
  | human
  deriving DecidableEq

inductive MemoryActorKind where
  | localAsserted
  deriving DecidableEq

inductive MemoryAssurance where
  | locallyApproved
  deriving DecidableEq

inductive MemoryLifecycle where
  | active
  | needsReview
  | stale
  | contradicted
  | superseded
  | quarantined
  | tombstoned
  deriving DecidableEq

inductive MemoryRelationshipKind where
  | contradicts
  | supersedes
  deriving DecidableEq

inductive RustMemorySymbolKind where
  | function
  | method
  | struct
  | enum
  | union
  | trait
  | module
  | typeAlias
  | constant
  | static
  | macroDeclaration
  deriving DecidableEq

/-! ## Commits and validity -/

inductive MemoryObjectFormat where
  | sha1
  | sha256
  deriving DecidableEq

/-- A Git object identity of either format. -/
inductive MemoryCommitId where
  | sha1 (bytes : BitVec 160)
  | sha256 (bytes : Bytes32)
  deriving DecidableEq

namespace MemoryCommitId

def objectFormat : MemoryCommitId → MemoryObjectFormat
  | sha1 _ => .sha1
  | sha256 _ => .sha256

/-- The derived order: every SHA-1 identity before every SHA-256 one. -/
def orderKey : MemoryCommitId → Nat
  | sha1 bytes => bytes.toNat
  | sha256 bytes => 2 ^ 160 + bytes.toNat

theorem orderKey_injective : Function.Injective orderKey := by
  intro first second same
  cases first with
  | sha1 left =>
    cases second with
    | sha1 right => exact congrArg sha1 (BitVec.eq_of_toNat_eq same)
    | sha256 right =>
      have := left.isLt
      simp only [orderKey] at same
      omega
  | sha256 left =>
    cases second with
    | sha1 right =>
      have := right.isLt
      simp only [orderKey] at same
      omega
    | sha256 right =>
      simp only [orderKey, Nat.add_left_cancel_iff] at same
      exact congrArg sha256 (BitVec.eq_of_toNat_eq same)

instance : Ord MemoryCommitId where
  compare := compareOn orderKey

instance : TransOrd MemoryCommitId := inferInstanceAs (TransCmp (compareOn orderKey))

instance : LawfulEqOrd MemoryCommitId := lawfulEqCmp_compareOn orderKey_injective

end MemoryCommitId

structure MemoryCommitSets where
  introducedBy : IncreasingList MemoryCommitId
  invalidatedBy : IncreasingList MemoryCommitId
  introduced : introducedBy.items ≠ []
  introducedBounded : introducedBy.items.length ≤ maxMemoryCommits
  invalidatedBounded : invalidatedBy.items.length ≤ maxMemoryCommits
  disjoint : ∀ commit ∈ introducedBy.items, commit ∉ invalidatedBy.items
  deriving DecidableEq

/-- Project-valid scope of one memory version. -/
inductive MemoryValidity where
  | commits (sets : MemoryCommitSets)
  | worktree (sourceSnapshot : Bytes32)
  deriving DecidableEq

/-! ## Evidence -/

structure ProducerIdentity where
  id : MemoryProducerId
  version : MemoryProducerVersion
  deriving DecidableEq

/-- The span and naming checks of one cited occurrence. -/
def validMemoryOccurrence (name : Text) (nameSpan declarationSpan : ByteSpan) : Bool :=
  !nameSpan.isEmpty && !declarationSpan.isEmpty &&
    decide (nameSpan.stop ≤ maxMemorySourceBytes) &&
    decide (declarationSpan.stop ≤ maxMemorySourceBytes) &&
    spanContains declarationSpan nameSpan &&
    nameSpan.stop - nameSpan.start == name.byteLength

/-- Exact syntax evidence binding a claim to one Rust occurrence. -/
structure RustSymbolMemoryEvidence where
  sourceSnapshot : Bytes32
  path : RepositoryPath
  content : Bytes32
  artifact : Bytes32
  factOrdinal : MemoryFactOrdinal
  symbolKind : RustMemorySymbolKind
  name : MemorySymbolName
  qualifiedName : MemoryQualifiedName
  nameSpan : ByteSpan
  declarationSpan : ByteSpan
  declarationDigest : Bytes32
  producer : ProducerIdentity
  occurrence : validMemoryOccurrence name.text nameSpan declarationSpan = true
  deriving DecidableEq

inductive MemoryEvidence where
  | rustSymbol (evidence : RustSymbolMemoryEvidence)
  deriving DecidableEq

/-! ## Relationships -/

instance : Ord MemoryRelationshipKind where
  compare := compareOn MemoryRelationshipKind.ctorIdx

structure MemoryRelationship where
  kind : MemoryRelationshipKind
  recordId : MemoryRecordId
  revisionDigest : CanonicalMemoryDigest
  deriving DecidableEq

namespace MemoryRelationship

def cmp : MemoryRelationship → MemoryRelationship → Ordering :=
  compareLex (compareOn kind) <|
  compareLex (compareOn recordId) (compareOn revisionDigest)

instance : Ord MemoryRelationship where
  compare := cmp

end MemoryRelationship

/-! ## Records -/

/-- Identity and parentage of one immutable memory version. -/
structure MemoryRecordHeader where
  recordId : MemoryRecordId
  displayRevision : MemoryDisplayRevision
  parents : IncreasingList CanonicalMemoryDigest
  parentsBounded : parents.items.length ≤ maxMemoryParents
  deriving DecidableEq

structure MemoryClaim where
  kind : MemoryKind
  title : MemoryTitle
  body : MemoryBody
  deriving DecidableEq

structure MemoryScope where
  repository : Bytes32
  subjectEvidence : MemoryEvidenceIndex
  deriving DecidableEq

structure MemoryProvenance where
  origin : MemoryProvenanceOrigin
  actorKind : MemoryActorKind
  actorId : MemoryActorId
  deriving DecidableEq

def schemaAdmits (schemaVersion : Nat) (kind : MemoryKind) : Bool :=
  schemaVersion == memoryRecordSchemaVersion && kind.isV1 ||
    schemaVersion == memoryRecordProfileV2SchemaVersion && kind.isV2

/-- The tombstone flag agrees with the authored lifecycle. -/
def validTombstone (tombstone : Bool) (lifecycle : MemoryLifecycle)
    (parents : List CanonicalMemoryDigest) : Bool :=
  if tombstone then
    lifecycle == .tombstoned && !parents.isEmpty
  else
    lifecycle != .tombstoned

/-- One complete semantic record of an accepted profile. -/
structure MemoryRecord where
  schemaVersion : Nat
  header : MemoryRecordHeader
  claim : MemoryClaim
  scope : MemoryScope
  provenance : MemoryProvenance
  assurance : MemoryAssurance
  lifecycle : MemoryLifecycle
  validity : MemoryValidity
  evidence : List MemoryEvidence
  relationships : IncreasingList MemoryRelationship
  tombstone : Bool
  profile : schemaAdmits schemaVersion claim.kind = true
  evidenced : evidence ≠ []
  evidenceBounded : evidence.length ≤ maxMemoryEvidence
  subjectCited : scope.subjectEvidence.value < evidence.length
  relationshipsBounded : relationships.items.length ≤ maxMemoryRelationships
  tombstoneAgrees : validTombstone tombstone lifecycle header.parents.items = true
  deriving DecidableEq

/-! ## A small record -/

namespace SampleMemory

/-- The path `a.rs`. -/
def path : RepositoryPath := Sample.path

/-- A citation of the function `f` at the start of `a.rs`. -/
def evidence : RustSymbolMemoryEvidence where
  sourceSnapshot := 0
  path := path
  content := 1
  artifact := 2
  factOrdinal := ⟨0, by decide⟩
  symbolKind := .function
  name := ⟨['f'], by decide⟩
  qualifiedName := ⟨['f'], by decide⟩
  nameSpan := ⟨3, 4, by decide⟩
  declarationSpan := ⟨0, 9, by decide⟩
  declarationDigest := 3
  producer := ⟨⟨['p'], by decide⟩, ⟨['1'], by decide⟩⟩
  occurrence := by decide

/-- An active decision about `f` for one exact worktree snapshot. -/
def record (header : MemoryRecordHeader) : MemoryRecord where
  schemaVersion := memoryRecordSchemaVersion
  header := header
  claim := ⟨.decision, ⟨['t'], by decide⟩, ⟨['b'], by decide⟩⟩
  scope := ⟨4, ⟨0, by decide⟩⟩
  provenance := ⟨.human, .localAsserted, ⟨['a'], by decide⟩⟩
  assurance := .locallyApproved
  lifecycle := .active
  validity := .worktree 0
  evidence := [.rustSymbol evidence]
  relationships := ⟨[], by decide⟩
  tombstone := false
  profile := by decide
  evidenced := by decide
  evidenceBounded := by decide
  subjectCited := by decide
  relationshipsBounded := by decide
  tombstoneAgrees := by simp [validTombstone]

/-- The header of a first revision. -/
def firstHeader : MemoryRecordHeader := ⟨0, ⟨1, by decide⟩, ⟨[], by decide⟩, by decide⟩

end SampleMemory

end RepoWitness
