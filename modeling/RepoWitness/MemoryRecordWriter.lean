import RepoWitness.MemoryRecordFiles

namespace RepoWitness

/-!
# Writing worktree memory records

One local memory write as a machine that advances step by step: admit the
input, take the write lease, read and check the current record, write a
temporary file and publish it, by a link for the first revision of a record and
by a rename for every later one.  A fault may meet any step, and a write may be
cut off between any two.
-/

def tempAttempts : Nat := 16

inductive LocalMemoryManageError where
  | deadlineNotRepresentable
  | cancelled
  | deadlineExceeded
  | repositoryIdentityInvalid
  | repositoryUnavailable
  | recordUnavailable
  | inputUnavailable
  | scopeMismatch
  | sensitiveContent
  | writeConflict
  | mergeUnsupported
  | filePublicationFailed
  | countNotRepresentable
  deriving DecidableEq

def mapFileError : MemoryFileImportError → LocalMemoryManageError
  | .cancelled => .cancelled
  | .deadlineExceeded => .deadlineExceeded
  | _ => .recordUnavailable

inductive MemoryFileIdentityStatus where
  | confirmedAtFinalFence
  | changedAfterCommit
  deriving DecidableEq

inductive MemoryFilePublicationStepStatus where
  | notRequired
  | complete
  | deferred
  deriving DecidableEq

structure LocalMemoryFilePublicationStatus where
  temporaryCleanup : MemoryFilePublicationStepStatus
  targetIdentity : MemoryFileIdentityStatus
  recordsDirectoryIdentity : MemoryFileIdentityStatus
  directorySync : MemoryFilePublicationStepStatus
  deriving DecidableEq

structure LocalMemoryWriteReceipt where
  revision : CanonicalMemoryDigest
  created : Bool
  canonicalBytes : Nat
  publicationStatus : LocalMemoryFilePublicationStatus
  deriving DecidableEq

/-! ## Admitting the input -/

/-- The record format and the scanner for credentials. -/
structure MemoryWriter where
  format : MemoryFormat
  sensitive : MemoryRecord → Bool

structure LocalMemoryWriteRequest where
  repositoryIdentity : Except LocalMemoryManageError Bytes32
  input : List UInt8
  process : Nat

/-- An admitted record together with its complete canonical presentation. -/
structure PreparedWrite (format : MemoryFormat) where
  record : MemoryRecord
  canonical : List UInt8
  presents : format.Presents record canonical

namespace MemoryWriter

variable (writer : MemoryWriter)

def present (record : MemoryRecord) : Except LocalMemoryManageError (PreparedWrite writer.format) :=
  match generated : writer.format.generateMemoryYaml record with
  | .error _ => .error .inputUnavailable
  | .ok canonical =>
    match parsed : writer.format.parseMemoryRecord canonical with
    | .error _ => .error .inputUnavailable
    | .ok verified =>
      if writer.format.digest verified ≠ writer.format.digest record then
        .error .inputUnavailable
      else
        .ok
          { record, canonical
            presents :=
              { generated
                parses := by
                  have read := parsed
                  unfold MemoryFormat.parseMemoryRecord at read
                  split at read
                  · cases read
                  · rw [parsed, writer.format.readsBack _ _ _ generated read] } }

def prepare (request : LocalMemoryWriteRequest) :
    Except LocalMemoryManageError (PreparedWrite writer.format) := do
  let repository ← request.repositoryIdentity
  let record ←
    (writer.format.parseMemoryRecord request.input).mapError
      (fun _ => LocalMemoryManageError.inputUnavailable)
  if record.scope.repository ≠ repository then
    .error .scopeMismatch
  else if writer.sensitive record then
    .error .sensitiveContent
  else
    writer.present record

end MemoryWriter

/-! ## The current record -/

structure CurrentRecord where
  revision : CanonicalMemoryDigest
  displayRevision : UInt32
  presentation : Bytes32
  deriving DecidableEq

def LoadedMemoryRecord.current (loaded : LoadedMemoryRecord) : CurrentRecord where
  revision := loaded.revision
  displayRevision := loaded.record.header.displayRevision.value
  presentation := loaded.presentation

/-- An unavailable file is an absent record; other load failures are errors. -/
def currentRecord (loading : Except MemoryFileImportError LoadedMemoryRecord) :
    Except LocalMemoryManageError (Option CurrentRecord) :=
  match loading with
  | .ok loaded => .ok (some loaded.current)
  | .error .fileUnavailable => .ok none
  | .error error => .error (mapFileError error)

/-- Increment within 32 bits. -/
def checkedSuccessor (value : UInt32) : Option UInt32 :=
  if value.toNat + 1 < 2 ^ 32 then some (value + 1) else none

/-- Whether the proposed record creates the file or succeeds the current one. -/
def validateUpdate (proposed : MemoryRecord)
    (current : Option CurrentRecord) : Except LocalMemoryManageError Bool :=
  let parents := proposed.header.parents.items
  let display := proposed.header.displayRevision.value
  match current with
  | none =>
    if parents = [] ∧ display = 1 then
      .ok true
    else
      .error .writeConflict
  | some current =>
    if parents.length > 1 then
      .error .mergeUnsupported
    else if parents = [current.revision] then
      match checkedSuccessor current.displayRevision with
      | none => .error .writeConflict
      | some successor =>
        if display = successor then
          .ok false
        else
          .error .writeConflict
    else
      .error .writeConflict

def revalidateCurrent (loading : Except MemoryFileImportError LoadedMemoryRecord)
    (expected : CurrentRecord) : Except LocalMemoryManageError Unit :=
  match loading with
  | .error error => .error (mapFileError error)
  | .ok loaded =>
    if loaded.current ≠ expected then
      .error .writeConflict
    else
      .ok ()

/-! ## Publication -/

structure PublicationWork (format : MemoryFormat) extends PreparedWrite format where
  current : Option CurrentRecord
  created : Bool
  admitted : validateUpdate record current = .ok created

structure TemporaryFile where
  process : Nat
  ordinal : Nat
  node : Nat
  deriving DecidableEq

def TemporaryFile.name (temporary : TemporaryFile) : RecordsName :=
  .temporary temporary.process temporary.ordinal

/-- The steps over the temporary file, up to the commit. -/
inductive TemporaryStage where
  | writeTemporary
  | syncTemporary
  | inspectTemporary
  | revalidateCurrent
  | publishTarget
  deriving DecidableEq

/-- Where one write stands. -/
inductive WritePhase (format : MemoryFormat) where
  | requested
  | waiting (prepared : PreparedWrite format)
  | leased (prepared : PreparedWrite format)
  | openDirectorySync (work : PublicationWork format)
  | createTemporary (work : PublicationWork format)
  | temporary (stage : TemporaryStage) (work : PublicationWork format) (file : TemporaryFile)
  | cleanupTemporary (file : TemporaryFile) (error : LocalMemoryManageError)
  | removeTemporary (work : PublicationWork format) (file : TemporaryFile)
  | verifyTarget (work : PublicationWork format) (node : Nat)
      (cleanup : MemoryFilePublicationStepStatus)
  | syncDirectory (work : PublicationWork format) (cleanup : MemoryFilePublicationStepStatus)
      (target : MemoryFileIdentityStatus)
  | verifyRecordsDirectory (work : PublicationWork format)
      (cleanup : MemoryFilePublicationStepStatus)
      (target : MemoryFileIdentityStatus)
      (sync : MemoryFilePublicationStepStatus)
  | returned (result : Except LocalMemoryManageError LocalMemoryWriteReceipt)
  | crashed

namespace WritePhase

variable {format : MemoryFormat}

def finished : WritePhase format → Bool
  | .returned _ | .crashed => true
  | _ => false

/-- The lease is held from its acquisition to the end of the call. -/
def holdsLease : WritePhase format → Bool
  | .requested | .waiting _ | .returned _ | .crashed => false
  | _ => true

end WritePhase

/--
A fault met by one step: the error it propagates; where the step loads the
current record, whether the load reports an unavailable file instead; and where
it writes, the number of bytes written before it.
-/
structure StepFault where
  error : LocalMemoryManageError
  unavailable : Bool
  written : Nat
  deriving DecidableEq

/--
What one step meets: a fault or none, the order in which the directory is
listed, and the ordinals the process draws for temporary names.
-/
structure StepEnvironment where
  fault : Option StepFault
  listing : List RecordsName
  ordinals : Fin tempAttempts → Nat

inductive WriteEvent where
  | progressed
  | published (record : MemoryRecord)
  | returned (result : Except LocalMemoryManageError LocalMemoryWriteReceipt)
  | crashed

/-- The phase and the directory after one step, and what the step showed. -/
structure Advance (format : MemoryFormat) where
  phase : WritePhase format
  directory : RecordsDirectory
  event : WriteEvent

namespace Advance

variable {format : MemoryFormat}

def progress (phase : WritePhase format) (directory : RecordsDirectory) : Advance format :=
  ⟨phase, directory, .progressed⟩

def refuse (error : LocalMemoryManageError) (directory : RecordsDirectory) : Advance format :=
  ⟨.returned (.error error), directory, .returned (.error error)⟩

end Advance

def RecordsDirectory.remove (directory : RecordsDirectory)
    (name : RecordsName) : RecordsDirectory :=
  match directory.removeFile name with
  | .ok after => after
  | .error _ => directory

/-- Try the drawn ordinals until a name is not in use. -/
def createTemporary (directory : RecordsDirectory) (process : Nat) :
    List Nat → Option (RecordsDirectory × TemporaryFile)
  | [] => none
  | ordinal :: rest =>
    match directory.createNew (.temporary process ordinal) with
    | .ok after => some (after, ⟨process, ordinal, directory.next⟩)
    | .error _ => createTemporary directory process rest

/-- The target still is the published node, unique and with the exact bytes. -/
def verifyPublishedTarget (directory : RecordsDirectory) (target : RecordsName) (node : Nat)
    (canonical : List UInt8) : Bool :=
  directory.find target == some node && directory.links node == 1 &&
    directory.content node == canonical

def postCommitStep (completed : Bool) : MemoryFilePublicationStepStatus :=
  if completed then .complete else .deferred

def identityStatus (confirmed : Bool) : MemoryFileIdentityStatus :=
  if confirmed then .confirmedAtFinalFence else .changedAfterCommit

namespace MemoryWriter

variable (writer : MemoryWriter)

def target (prepared : PreparedWrite writer.format) : RecordsName :=
  .record prepared.record.header.recordId

def receipt (work : PublicationWork writer.format)
    (status : LocalMemoryFilePublicationStatus) : LocalMemoryWriteReceipt where
  revision := writer.format.digest work.record
  created := work.created
  canonicalBytes := work.canonical.length
  publicationStatus := status

def checkUpdate (environment : StepEnvironment) (prepared : PreparedWrite writer.format)
    (directory : RecordsDirectory) : Advance writer.format :=
  let loading :=
    match environment.fault with
    | some _ => .error .fileUnavailable
    | none => writer.format.load directory environment.listing prepared.record.header.recordId
  match currentRecord loading with
  | .error error => .refuse error directory
  | .ok current =>
    match admitted : validateUpdate prepared.record current with
    | .error error => .refuse error directory
    | .ok created =>
      .progress (.openDirectorySync { prepared with current, created, admitted })
        directory

/-- The commit: link a first revision, rename over an earlier one. -/
def publish (work : PublicationWork writer.format) (file : TemporaryFile)
    (directory : RecordsDirectory) : Advance writer.format :=
  let target := writer.target work.toPreparedWrite
  match work.current with
  | none =>
    match directory.hardLink file.name target with
    | .ok after => ⟨.removeTemporary work file, after, .published work.record⟩
    | .error .alreadyExists => .progress (.cleanupTemporary file .writeConflict) directory
    | .error .notFound => .progress (.cleanupTemporary file .filePublicationFailed) directory
  | some _ =>
    match directory.rename file.name target with
    | .ok after => ⟨.verifyTarget work file.node .notRequired, after, .published work.record⟩
    | .error _ => .progress (.cleanupTemporary file .filePublicationFailed) directory

/-- One step over the temporary file that meets no fault. -/
def advanceTemporary (environment : StepEnvironment) (stage : TemporaryStage)
    (work : PublicationWork writer.format) (file : TemporaryFile)
    (directory : RecordsDirectory) : Advance writer.format :=
  match stage with
  | .writeTemporary =>
    .progress (.temporary .syncTemporary work file) (directory.write file.node work.canonical)
  | .syncTemporary => .progress (.temporary .inspectTemporary work file) directory
  | .inspectTemporary =>
    if directory.links file.node = 1 then
      .progress (.temporary (if work.current.isNone then .publishTarget
            else .revalidateCurrent)
          work file)
        directory
    else
      .progress (.cleanupTemporary file .filePublicationFailed) directory
  | .revalidateCurrent =>
    match work.current with
    | none => .progress (.temporary .publishTarget work file) directory
    | some expected =>
      match revalidateCurrent
          (writer.format.load directory environment.listing work.record.header.recordId)
          expected with
      | .ok _ => .progress (.temporary .publishTarget work file) directory
      | .error error => .progress (.cleanupTemporary file error) directory
  | .publishTarget => writer.publish work file directory

def failTemporary (fault : StepFault) (stage : TemporaryStage)
    (work : PublicationWork writer.format) (file : TemporaryFile)
    (directory : RecordsDirectory) : Advance writer.format :=
  .progress (.cleanupTemporary file fault.error)
    (match stage with
      | .writeTemporary => directory.write file.node (work.canonical.take fault.written)
      | _ => directory)

/-- One step of a write. -/
def advance (request : LocalMemoryWriteRequest) (environment : StepEnvironment) (leaseFree : Bool)
    (phase : WritePhase writer.format) (directory : RecordsDirectory) : Advance writer.format :=
  match phase with
  | .requested =>
    match environment.fault, writer.prepare request with
    | some fault, _ => .refuse fault.error directory
    | none, .error error => .refuse error directory
    | none, .ok prepared => .progress (.waiting prepared) directory
  | .waiting prepared =>
    match environment.fault with
    | some fault => .refuse fault.error directory
    | none => .progress (if leaseFree then .leased prepared else .waiting prepared) directory
  | .leased prepared =>
    match environment.fault with
    | some fault =>
      if fault.unavailable then
        writer.checkUpdate environment prepared directory
      else
        .refuse fault.error directory
    | none => writer.checkUpdate environment prepared directory
  | .openDirectorySync work =>
    match environment.fault with
    | some fault => .refuse fault.error directory
    | none => .progress (.createTemporary work) directory
  | .createTemporary work =>
    match environment.fault,
        RepoWitness.createTemporary directory request.process
          (List.ofFn environment.ordinals) with
    | some fault, _ => .refuse fault.error directory
    | none, none => .refuse .filePublicationFailed directory
    | none, some (after, file) => .progress (.temporary .writeTemporary work file) after
  | .temporary stage work file =>
    match environment.fault with
    | some fault => writer.failTemporary fault stage work file directory
    | none => writer.advanceTemporary environment stage work file directory
  | .cleanupTemporary file error =>
    .refuse error (if environment.fault.isNone then directory.remove file.name
        else directory)
  | .removeTemporary work file =>
    match environment.fault, directory.removeFile file.name with
    | none, .ok after => .progress (.verifyTarget work file.node .complete) after
    | _, _ => .progress (.verifyTarget work file.node .deferred) directory
  | .verifyTarget work node cleanup =>
    .progress (.syncDirectory work cleanup (identityStatus
          (environment.fault.isNone && verifyPublishedTarget directory
              (writer.target work.toPreparedWrite) node work.canonical)))
      directory
  | .syncDirectory work cleanup target =>
    .progress
      (.verifyRecordsDirectory work cleanup target (postCommitStep environment.fault.isNone))
      directory
  | .verifyRecordsDirectory work cleanup target sync =>
    let result :=
      .ok (writer.receipt work ⟨cleanup, target, identityStatus environment.fault.isNone, sync⟩)
    ⟨.returned result, directory, .returned result⟩
  | .returned _ | .crashed => .progress phase directory

end MemoryWriter

/-! ## A small format -/

namespace SampleWrites

/-- The first revision of one record. -/
def first : MemoryRecord := SampleMemory.record SampleMemory.firstHeader

/-- Its second revision. -/
def second : MemoryRecord := SampleMemory.record
    { recordId := 0, displayRevision := ⟨2, by decide⟩, parents := ⟨[7], by decide⟩
      parentsBounded := by decide }

def format : MemoryFormat where
  readYaml := fun bytes =>
    if bytes = [1] then .ok first
    else if bytes = [2] then .ok second
    else .error .invalidYaml
  generateMemoryYaml := fun record =>
    if record = first then .ok [1]
    else if record = second then .ok [2]
    else .error .generationFailed
  digest := fun record => if record.header.displayRevision.value = 1 then 7 else 8
  presentation := fun _ => 0
  readsBack := by
    intro record canonical readBack generated read
    split at generated
    · subst_vars
      cases generated
      exact (Except.ok.inj read).symm
    · split at generated
      · subst_vars
        cases generated
        exact (Except.ok.inj read).symm
      · cases generated

def writer : MemoryWriter where
  format := format
  sensitive := fun _ => false

end SampleWrites

end RepoWitness
