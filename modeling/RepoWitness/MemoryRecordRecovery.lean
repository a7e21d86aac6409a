import RepoWitness.MemoryRecordChain

namespace RepoWitness

/-!
# Going on after cut-off memory writes

Whether the record files that a run of faulty and crashed writes leaves behind
can still be loaded and updated.  The loader wants one link, a bounded directory
and, for the next write, a free temporary name; a first publication that ends
between its link and the removal of its temporary leaves a second link behind.
-/

namespace MemoryWriter

variable (writer : MemoryWriter) (request : LocalMemoryWriteRequest)
  (ordinals : Fin tempAttempts → Nat)

structure Smooth (environment : StepEnvironment) (directory : RecordsDirectory) : Prop where
  faultless : environment.fault = none
  enumerates : environment.listing.Perm directory.names
  drawn : environment.ordinals = ordinals

/-- One fault-free step of a write that runs alone. -/
inductive SoloStep : WritePhase writer.format × RecordsDirectory →
      WritePhase writer.format × RecordsDirectory → Prop where
  | step {phase : WritePhase writer.format} {directory : RecordsDirectory}
      {environment : StepEnvironment}
      (running : phase.finished = false)
      (smooth : Smooth ordinals environment directory) :
      SoloStep (phase, directory)
        ((writer.advance request environment true phase directory).phase,
          (writer.advance request environment true phase directory).directory)

def Receipted (record : MemoryRecord)
    (state : WritePhase writer.format × RecordsDirectory) : Prop :=
  ∃ receipt, state.1 = .returned (.ok receipt) ∧ receipt.revision = writer.format.digest record

/-- A write that goes on alone and without faults returns its receipt. -/
def Succeeds (record : MemoryRecord) (phase : WritePhase writer.format)
    (directory : RecordsDirectory) : Prop :=
  Inevitable (SoloStep writer request ordinals) (Receipted writer record) (phase, directory)

/-- Nothing stands in the way of the next write of a record. -/
structure Unobstructed (directory : RecordsDirectory) (recordId : MemoryRecordId) : Prop where
  single : ∀ node, directory.find (.record recordId) = some node → directory.links node = 1
  bounded : directory.names.length < maxExactDirectoryEntries
  temporary : ∃ attempt, .temporary request.process (ordinals attempt) ∉ directory.names

variable {writer request ordinals}

/-! ## Steps without a choice -/

section Solo

variable {record : MemoryRecord} {phase next : WritePhase writer.format}
  {directory after : RecordsDirectory}

theorem exists_smooth (ordinals : Fin tempAttempts → Nat) (directory : RecordsDirectory) :
    ∃ environment, Smooth ordinals environment directory :=
  ⟨⟨none, directory.names, ordinals⟩, rfl, .refl _, rfl⟩

theorem not_receipted_of_running (running : phase.finished = false) :
    ¬ Receipted writer record (phase, directory) := by
  rintro ⟨receipt, isReturned, _⟩
  simp only at isReturned
  rw [isReturned] at running
  cases running

/-- A step that no listing changes is the only way on. -/
theorem succeeds_iff_of_determined (running : phase.finished = false)
    (determined : ∀ environment, Smooth ordinals environment directory →
        ((writer.advance request environment true phase directory).phase,
            (writer.advance request environment true phase directory).directory) =
          (next, after)) :
    Succeeds writer request ordinals record phase directory ↔
      Succeeds writer request ordinals record next after := by
  obtain ⟨environment, smooth⟩ := exists_smooth ordinals directory
  refine Inevitable.iff_of_determined (not_receipted_of_running running) ?_ ?_
  · rw [← determined environment smooth]
    exact .step running smooth
  · intro other taken
    cases taken with
    | step _ smooth => exact determined _ smooth

theorem succeeds_iff_of_advance (running : phase.finished = false)
    (determined : ∀ environment, Smooth ordinals environment directory →
        writer.advance request environment true phase directory = .progress next after) :
    Succeeds writer request ordinals record phase directory ↔
      Succeeds writer request ordinals record next after := by
  refine succeeds_iff_of_determined running fun environment smooth => ?_
  rw [determined environment smooth]
  rfl

variable {error : LocalMemoryManageError} {environment : StepEnvironment}
  {prepared : PreparedWrite writer.format} {loaded : LoadedMemoryRecord}
  {work : PublicationWork writer.format} {current : CurrentRecord} {file : TemporaryFile}

theorem not_succeeds_of_refused :
    ¬ Succeeds writer request ordinals record (.returned (.error error)) directory := by
  refine Inevitable.not_of_stuck ?_ ?_
  · rintro ⟨receipt, isReturned, _⟩
    cases isReturned
  · intro next taken
    cases taken with
    | step running _ => cases running

theorem not_succeeds_of_advance
    (running : phase.finished = false) (smooth : Smooth ordinals environment directory)
    (refused : writer.advance request environment true phase directory = .refuse error after) :
    ¬ Succeeds writer request ordinals record phase directory := by
  intro succeeds
  have taken : SoloStep writer request ordinals (phase, directory) _ := .step running smooth
  rw [refused] at taken
  exact not_succeeds_of_refused (succeeds.of_step (not_receipted_of_running running) taken)

/-- Nothing after the commit keeps a write from its receipt. -/
theorem succeeds_of_committed (work : PublicationWork writer.format) (node : Nat)
    (cleanup : MemoryFilePublicationStepStatus) (directory : RecordsDirectory) :
    Succeeds writer request ordinals work.record (.verifyTarget work node cleanup) directory := by
  rw [succeeds_iff_of_advance rfl fun environment smooth => by
    simp only [advance, smooth.faultless]; rfl]
  rw [succeeds_iff_of_advance rfl fun environment smooth => by
    simp only [advance, smooth.faultless]; rfl]
  obtain ⟨environment, smooth⟩ := exists_smooth ordinals directory
  refine .later ⟨_, .step rfl smooth⟩ ?_
  intro next taken
  cases taken with
  | step _ _ => exact .now ⟨_, rfl, rfl⟩

/-! ## The steps before the commit -/

theorem checkedSuccessor_of_toNat {value successor : UInt32}
    (isNext : successor.toNat = value.toNat + 1) :
    checkedSuccessor value = some successor := by
  have room := successor.toNat_lt
  rw [checkedSuccessor, if_pos (by omega)]
  congr 1
  apply UInt32.toNat_inj.mp
  rw [UInt32.toNat_add, isNext]
  exact Nat.mod_eq_of_lt (by simpa [isNext] using room)

theorem validateUpdate_of_follows {proposed previous : MemoryRecord} {format : MemoryFormat}
    {canonical : List UInt8} (follows : proposed.Follows format.digest (some previous)) :
    validateUpdate proposed (some (format.loaded previous canonical).current) = .ok false := by
  obtain ⟨parents, display⟩ := follows
  have incremented := checkedSuccessor_of_toNat display
  simp [validateUpdate, parents, LoadedMemoryRecord.current, MemoryFormat.loaded, incremented]

theorem checkUpdate_of_load {created : Bool} (faultless : environment.fault = none)
    (loading :
      writer.format.load directory environment.listing prepared.record.header.recordId = .ok loaded)
    (admitted : validateUpdate prepared.record (some loaded.current) = .ok created) :
    writer.checkUpdate environment prepared directory = .progress
        (.openDirectorySync { prepared with current := some loaded.current, created, admitted })
        directory := by
  unfold checkUpdate
  simp only [faultless, loading, currentRecord]
  split
  case h_1 error refused =>
      rw [admitted] at refused
      cases refused
  case h_2 other isOther =>
      obtain rfl : created = other := Except.ok.inj (admitted.symm.trans isOther)
      rfl

theorem createTemporary_eq_none_iff {process : Nat} {drawn : List Nat} :
    RepoWitness.createTemporary directory process drawn = none ↔
      ∀ ordinal ∈ drawn, .temporary process ordinal ∈ directory.names := by
  induction drawn with
  | nil => simp [RepoWitness.createTemporary]
  | cons ordinal rest hypothesis =>
    rw [RepoWitness.createTemporary, List.forall_mem_cons]
    cases creating : directory.createNew (.temporary process ordinal) with
    | ok after =>
      obtain ⟨free, _⟩ := LinkedDirectory.createNew_eq_ok creating
      rw [LinkedDirectory.find_eq_none_iff] at free
      simp [free]
    | error error =>
      have used := LinkedDirectory.createNew_eq_error creating
      simp [used, hypothesis]

/-- The work of a write checked against a loaded record. -/
def successorWork (prepared : PreparedWrite writer.format) (current : CurrentRecord)
    (admitted : validateUpdate prepared.record (some current) = .ok false) :
    PublicationWork writer.format :=
  { prepared with current := some current, created := false, admitted }

/-- A correct successor gets as far as its temporary file. -/
theorem succeeds_requested_iff (prepares : writer.prepare request = .ok prepared)
    (loads : ∀ listing, listing.Perm directory.names →
        writer.format.load directory listing prepared.record.header.recordId = .ok loaded)
    (admitted : validateUpdate prepared.record (some loaded.current) = .ok false) :
    Succeeds writer request ordinals record .requested directory ↔
      Succeeds writer request ordinals record
        (.createTemporary (successorWork prepared loaded.current admitted))
        directory := by
  rw [succeeds_iff_of_advance rfl fun environment smooth => by
    simp only [advance, smooth.faultless, prepares]; rfl]
  rw [succeeds_iff_of_advance rfl fun environment smooth => by
    simp only [advance, smooth.faultless, if_true]; rfl]
  rw [succeeds_iff_of_advance rfl fun environment smooth => by
    simp only [advance, smooth.faultless]
    exact checkUpdate_of_load smooth.faultless (loads _ smooth.enumerates) admitted]
  rw [succeeds_iff_of_advance rfl fun environment smooth => by
    simp only [advance, smooth.faultless]; rfl]
  rfl

theorem not_succeeds_createTemporary
    (used : ∀ attempt, .temporary request.process (ordinals attempt) ∈ directory.names) :
    ¬ Succeeds writer request ordinals record (.createTemporary work)
      directory := by
  obtain ⟨environment, smooth⟩ := exists_smooth ordinals directory
  have exhausted :
      RepoWitness.createTemporary directory request.process (List.ofFn ordinals) = none := by
    rw [createTemporary_eq_none_iff]
    intro ordinal member
    obtain ⟨attempt, rfl⟩ := List.mem_ofFn.mp member
    exact used attempt
  have refused :
      writer.advance request environment true (.createTemporary work) directory =
        .refuse .filePublicationFailed directory := by
    simp only [advance, smooth.faultless, smooth.drawn, exhausted]
  exact not_succeeds_of_advance rfl smooth refused

/-- With its temporary written, a write goes on to look at the record again. -/
theorem succeeds_createTemporary_iff
    (creates : RepoWitness.createTemporary directory request.process
        (List.ofFn ordinals) = some (after, file))
    (isUpdate : work.current = some current) :
    Succeeds writer request ordinals record (.createTemporary work) directory ↔
      Succeeds writer request ordinals record (.temporary .revalidateCurrent work file)
        (after.write file.node work.canonical) := by
  obtain ⟨ordinal, _, bound, rfl⟩ := exists_createNew_of_createTemporary creates
  have isPrivate := (private_of_createNew bound).write work.canonical
  have single := (LinkedDirectory.links_eq_one_iff _ isPrivate.bound).mpr isPrivate.unique
  rw [succeeds_iff_of_advance rfl fun environment smooth => by
    simp only [advance, smooth.faultless, smooth.drawn, creates]; rfl]
  rw [succeeds_iff_of_advance rfl fun environment smooth => by
    simp only [advance, smooth.faultless, advanceTemporary]; rfl]
  rw [succeeds_iff_of_advance rfl fun environment smooth => by
    simp only [advance, smooth.faultless, advanceTemporary]; rfl]
  rw [succeeds_iff_of_advance rfl fun environment smooth => by
    simp only [advance, smooth.faultless, advanceTemporary, single, isUpdate]
    rfl]
  rfl

/-- Over an unchanged record the rename commits the write. -/
theorem succeeds_of_revalidated (isPrivate : Private directory file)
    (isUpdate : work.current = some loaded.current)
    (loads : ∀ listing, listing.Perm directory.names →
        writer.format.load directory listing work.record.header.recordId = .ok loaded) :
    Succeeds writer request ordinals work.record
      (.temporary .revalidateCurrent work file) directory := by
  obtain ⟨renamed, renames⟩ :
      ∃ renamed, directory.rename file.name (writer.target work.toPreparedWrite) = .ok renamed :=
    LinkedDirectory.rename_isOk isPrivate.bound
  rw [succeeds_iff_of_advance rfl fun environment smooth => by
    simp only [advance, smooth.faultless, advanceTemporary, isUpdate,
      loads _ smooth.enumerates, revalidateCurrent, ne_eq,
      not_true_eq_false, if_false]
    rfl]
  rw [succeeds_iff_of_determined rfl fun environment smooth => by
    simp only [advance, smooth.faultless, advanceTemporary, publish, isUpdate, renames]
    rfl]
  exact succeeds_of_committed _ _ _ _

/-- A write that cannot read the record again is refused. -/
theorem not_succeeds_of_unreadable {listing : List RecordsName} {error : MemoryFileImportError}
    (isUpdate : work.current = some current) (enumerates : listing.Perm directory.names)
    (unreadable : writer.format.load directory listing work.record.header.recordId = .error error) :
    ¬ Succeeds writer request ordinals record
      (.temporary .revalidateCurrent work file) directory := by
  intro succeeds
  have smooth : Smooth ordinals ⟨none, listing, ordinals⟩ directory := ⟨rfl, enumerates, rfl⟩
  have abandons : writer.advance request ⟨none, listing, ordinals⟩ true
          (.temporary .revalidateCurrent work file) directory =
        .progress (.cleanupTemporary file (mapFileError error))
          directory := by
    simp only [advance, advanceTemporary, isUpdate, unreadable, revalidateCurrent]
  have taken :
      SoloStep writer request ordinals (.temporary .revalidateCurrent work file, directory) _ :=
    .step rfl smooth
  rw [abandons] at taken
  have abandoned : Succeeds writer request ordinals record
        (.cleanupTemporary file (mapFileError error)) directory :=
    succeeds.of_step (not_receipted_of_running rfl) taken
  exact not_succeeds_of_advance rfl smooth rfl abandoned

end Solo

/-! ## Recovery -/

section Recovery

variable {record : MemoryRecord} {directory after : RecordsDirectory} {node : Nat}
  {file : TemporaryFile}

structure Beside (directory middle : RecordsDirectory) (record : MemoryRecord) (node : Nat)
    (file : TemporaryFile) : Prop where
  found : middle.find (.record record.header.recordId) = some node
  content : middle.content node = directory.content node
  links : directory.links node = 1 → middle.links node = 1
  names : middle.names.length = directory.names.length + 1
  isPrivate : Private middle file
  keeps : KeepsRecords directory middle

variable {process : Nat} {format : MemoryFormat}

theorem beside_of_createTemporary {drawn : List Nat}
    (creates : RepoWitness.createTemporary directory process drawn = some (after, file))
    (found : directory.find (.record record.header.recordId) = some node) (bytes : List UInt8) :
    Beside directory (after.write file.node bytes) record node file := by
  obtain ⟨ordinal, _, bound, rfl⟩ := exists_createNew_of_createTemporary creates
  obtain ⟨_, new, others, content, names⟩ := LinkedDirectory.createNew_eq_ok bound
  have older := directory.lt_next_of_find found
  have stillFound : after.find (.record record.header.recordId) = some node :=
    (others _ (by simp)).trans found
  refine ⟨stillFound, ?_, ?_, ?_, ?_, ?_⟩
  · rw [LinkedDirectory.write_content_of_ne _ (Nat.ne_of_lt older), content,
      LinkedDirectory.write_content_of_ne _ (Nat.ne_of_lt older)]
  · intro single
    rw [LinkedDirectory.links_eq_one_iff _ found] at single
    rw [LinkedDirectory.links_eq_one_iff _
      (show (after.write directory.next bytes).find _ = _ from stillFound)]
    intro other foundOther
    rw [LinkedDirectory.find_write] at foundOther
    by_cases isNew : other = .temporary process ordinal
    · rw [isNew, new] at foundOther
      exact absurd (Option.some.inj foundOther) (Nat.ne_of_gt older)
    · exact single other ((others other isNew).symm.trans foundOther)
  · rw [show (after.write directory.next bytes).names = after.names from rfl,
      names, List.length_append, List.length_singleton]
  · exact (private_of_createNew bound).write bytes
  · intro recordId
    rw [(private_of_createNew bound).keepsRecords_write bytes recordId]
    exact keepsRecords_createNew bound recordId

theorem exists_find_of_holds (holds : format.Holds directory record) :
    ∃ node, directory.find (.record record.header.recordId) = some node := by
  obtain ⟨canonical, contents, _⟩ := holds
  obtain ⟨node, found, _⟩ := Option.map_eq_some_iff.mp contents
  exact ⟨node, found⟩

theorem load_of_few (holds : format.Holds directory record)
    (found : directory.find (.record record.header.recordId) = some node)
    (single : directory.links node = 1) (few : directory.names.length ≤ maxExactDirectoryEntries)
    {listing : List RecordsName} (enumerates : listing.Perm directory.names) :
    format.load directory listing record.header.recordId =
      .ok (format.loaded record (directory.content node)) := by
  refine MemoryFormat.load_of_holds holds found single ?_
  refine exactEntry_of_mem (enumerates.mem_iff.mpr (directory.mem_names_of_find found)) ?_
  rw [Nat.zero_add, enumerates.length_eq]
  exact few

theorem exists_unreadable_of_many (format : MemoryFormat)
    (found : directory.find (.record record.header.recordId) = some node)
    (many : maxExactDirectoryEntries < directory.names.length) :
    ∃ listing error, listing.Perm directory.names ∧
        format.load directory listing record.header.recordId = .error error := by
  obtain ⟨others, absent, count, order⟩ :=
    directory.exists_listing_last (directory.mem_names_of_find found)
  cases loading :
      format.load directory (others ++ [.record record.header.recordId]) record.header.recordId with
  | error error => exact ⟨_, error, order, loading⟩
  | ok loaded =>
    obtain ⟨_, reading, _⟩ := MemoryFormat.load_eq_ok_iff.mp loading
    exact absurd (readUniqueExact_eq_ok_iff.mp reading).1 (exactEntry_behind absent (by omega))

theorem exists_createTemporary_of_free
    (free : ∃ attempt, .temporary process (ordinals attempt) ∉ directory.names) :
    ∃ after file,
      RepoWitness.createTemporary directory process (List.ofFn ordinals) = some (after, file) := by
  obtain ⟨attempt, unused⟩ := free
  cases creating : RepoWitness.createTemporary directory process (List.ofFn ordinals) with
  | some created => exact ⟨created.1, created.2, rfl⟩
  | none =>
    rw [createTemporary_eq_none_iff] at creating
    exact absurd (creating _ (List.mem_ofFn.mpr ⟨attempt, rfl⟩)) unused

theorem holds_of_keepsRecords (holds : format.Holds directory record)
    (keeps : KeepsRecords directory after) :
    format.Holds after record := by
  obtain ⟨canonical, contents, presents⟩ := holds
  exact ⟨canonical, (keeps _).trans contents, presents⟩

/--
A record file can be loaded and its correct successor can be written exactly
when nothing stands in the way.
-/
theorem recovers_iff {prepared : PreparedWrite writer.format}
    (holds : writer.format.Holds directory record)
    (prepares : writer.prepare request = .ok prepared)
    (sameId : prepared.record.header.recordId = record.header.recordId)
    (follows : prepared.record.Follows writer.format.digest (some record)) :
    (writer.format.Loadable directory record ∧
        Succeeds writer request ordinals prepared.record .requested directory) ↔
      Unobstructed request ordinals directory record.header.recordId := by
  obtain ⟨node, found⟩ := exists_find_of_holds holds
  have admitted : validateUpdate prepared.record
          (some (writer.format.loaded record (directory.content node)).current) = .ok false :=
    validateUpdate_of_follows follows
  rw [MemoryFormat.loadable_iff holds found]
  constructor
  · rintro ⟨⟨single, few⟩, succeeds⟩
    rw [succeeds_requested_iff prepares
      (fun _ enumerates => sameId ▸ load_of_few holds found single few enumerates)
      admitted] at succeeds
    have free : ∃ attempt, .temporary request.process (ordinals attempt) ∉ directory.names := by
      by_contra used
      refine not_succeeds_createTemporary (fun attempt => ?_) succeeds
      by_contra unused
      exact used ⟨attempt, unused⟩
    obtain ⟨after, file, creates⟩ := exists_createTemporary_of_free free
    rw [succeeds_createTemporary_iff creates rfl] at succeeds
    have beside := beside_of_createTemporary creates found prepared.canonical
    refine ⟨?_, ?_, free⟩
    · intro other foundOther
      obtain rfl : node = other := Option.some.inj (found.symm.trans foundOther)
      exact single
    · by_contra many
      obtain ⟨listing, error, enumerates, unreadable⟩ :=
        exists_unreadable_of_many writer.format beside.found (by rw [beside.names]; omega)
      exact not_succeeds_of_unreadable rfl enumerates (sameId ▸ unreadable) succeeds
  · rintro ⟨unique, bounded, free⟩
    have single := unique node found
    refine ⟨⟨single, Nat.le_of_lt bounded⟩, ?_⟩
    obtain ⟨after, file, creates⟩ := exists_createTemporary_of_free free
    have beside := beside_of_createTemporary creates found prepared.canonical
    rw [succeeds_requested_iff prepares
      (fun _ enumerates =>
        sameId ▸ load_of_few holds found single (Nat.le_of_lt bounded) enumerates)
      admitted, succeeds_createTemporary_iff creates rfl]
    change Succeeds writer request ordinals (successorWork prepared _ admitted).record _ _
    refine succeeds_of_revalidated beside.isPrivate rfl ?_
    intro listing enumerates
    have loading :=
      load_of_few (holds_of_keepsRecords holds beside.keeps) beside.found
        (beside.links single) (by rw [beside.names]; omega) enumerates
    rw [beside.content] at loading
    exact sameId ▸ loading

variable {Call : Type} [DecidableEq Call]

theorem holds_of_run {requests : Call → LocalMemoryWriteRequest} {labels : List (Call × WriteEvent)}
    {final : System writer Call} (run : Run (Step requests) (System.initial writer) labels final)
    (latest : (publications record.header.recordId labels).getLast? = some record) :
    writer.format.Holds final.directory record := by
  have reflects := (valid_of_run run valid_initial).1.reflects record.header.recordId
  rw [latestAfter_none] at reflects
  simp only [latest] at reflects
  exact reflects.2

end Recovery

end MemoryWriter

namespace SampleWrites

open MemoryWriter

/-- One call writes the first revision, the other its successor. -/
def succession : Bool → LocalMemoryWriteRequest
  | true => write [1]
  | false => write [2]

/-- The fault that keeps a link from being removed. -/
def faulty : StepEnvironment := { smooth with fault := some ⟨.filePublicationFailed, false, 0⟩ }

/-- The first write returns its receipt with the cleanup deferred. -/
def deferred : List (Bool × WriteEvent) × System writer Bool :=
  (System.initial writer).play succession true
    (List.replicate 9 smooth ++ faulty :: List.replicate 3 smooth)

/-- What the second write then meets. -/
def listed : StepEnvironment := { smooth with listing := deferred.2.directory.names }

theorem prepares_second : ∃ prepared, writer.prepare (succession false) = .ok prepared ∧
      prepared.record = second := ⟨_, rfl, rfl⟩

theorem second_follows_first : second.Follows format.digest (some first) := ⟨rfl, rfl⟩

end SampleWrites

namespace MemoryWriter

variable {writer : MemoryWriter} {Call : Type} [DecidableEq Call]

end MemoryWriter

namespace SampleWrites

open MemoryWriter

/-- The first write meets no fault. -/
def played : List (Bool × WriteEvent) × System writer Bool :=
  (System.initial writer).play succession true (List.replicate 20 smooth)

end SampleWrites

end RepoWitness
