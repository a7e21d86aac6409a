import RepoWitness.MemoryRecordWriter
import RepoWitness.TransitionRun

namespace RepoWitness

/-!
# Concurrent memory writes publish a linear chain

Any number of writes over one records directory, interleaved step by step and
each cut off or met by faults anywhere.  The write lease is held by one call at
a time, so the revisions of every record succeed one another, and a record file
never holds anything but the complete latest revision.
-/

def MemoryRecord.Follows (digest : MemoryRecord → CanonicalMemoryDigest)
    (latest : Option MemoryRecord) (record : MemoryRecord) : Prop :=
  match latest with
  | none => record.header.parents.items = [] ∧ record.header.displayRevision.value.toNat = 1
  | some previous =>
    record.header.parents.items = [digest previous] ∧
      record.header.displayRevision.value.toNat = previous.header.displayRevision.value.toNat + 1

def LinearFrom (digest : MemoryRecord → CanonicalMemoryDigest) :
    Option MemoryRecord → List MemoryRecord → Prop
  | _, [] => True
  | latest, record :: later => record.Follows digest latest ∧ LinearFrom digest (some record) later

abbrev LatestRevisions := MemoryRecordId → Option MemoryRecord

def LatestRevisions.after (latest : LatestRevisions) (event : WriteEvent) : LatestRevisions :=
  match event with
  | .published record => fun recordId =>
    if recordId = record.header.recordId then some record
    else latest recordId
  | _ => latest

namespace MemoryWriter

variable (writer : MemoryWriter)

/-! ## The system of writes -/

structure System (Call : Type) where
  directory : RecordsDirectory
  holder : Option Call
  phase : Call → WritePhase writer.format

variable {Call : Type}

def System.initial : System writer Call where
  directory := .empty
  holder := none
  phase := fun _ => .requested

variable {writer} [DecidableEq Call]

/-- Record where one call stands; the lease goes with its phase. -/
def System.after (state : System writer Call) (call : Call)
    (advance : Advance writer.format) : System writer Call where
  directory := advance.directory
  holder :=
    if advance.phase.holdsLease then some call
    else if state.holder = some call then none
    else state.holder
  phase := fun other => if other = call then advance.phase else state.phase other

/-- The next step of one call under what it meets. -/
def System.advance (requests : Call → LocalMemoryWriteRequest) (state : System writer Call)
    (call : Call) (environment : StepEnvironment) : Advance writer.format :=
  writer.advance (requests call) environment state.holder.isNone (state.phase call) state.directory

inductive Step (requests : Call → LocalMemoryWriteRequest) :
    System writer Call → Call × WriteEvent → System writer Call → Prop where
  | advanced {state : System writer Call} {call : Call} (environment : StepEnvironment)
      (running : (state.phase call).finished = false) :
      Step requests state (call, (state.advance requests call environment).event)
        (state.after call (state.advance requests call environment))
  | crashed {state : System writer Call} {call : Call}
      (running : (state.phase call).finished = false) :
      Step requests state (call, .crashed) (state.after call ⟨.crashed, state.directory, .crashed⟩)

/-- Let one call take steps under what each meets, until it has ended. -/
def System.play (requests : Call → LocalMemoryWriteRequest) (call : Call) :
    List StepEnvironment → System writer Call → List (Call × WriteEvent) × System writer Call
  | [], state => ([], state)
  | environment :: rest, state =>
    if (state.phase call).finished then
      ([], state)
    else
      let advance := state.advance requests call environment
      let played := System.play requests call rest (state.after call advance)
      ((call, advance.event) :: played.1, played.2)

theorem System.run_play (requests : Call → LocalMemoryWriteRequest) (call : Call)
    (environments : List StepEnvironment) (state : System writer Call) :
    Run (Step requests) state (state.play requests call environments).1
      (state.play requests call environments).2 := by
  induction environments generalizing state with
  | nil => exact .done state
  | cons environment rest hypothesis =>
    rw [play]
    split
    case isTrue => exact .done state
    case isFalse running =>
        exact
          .more (.advanced environment (Bool.eq_false_of_not_eq_true running))
            (hypothesis _)

/-! ## What the directory and the phases keep -/

/-- Every record file is its complete latest revision, or absent. -/
def Reflects (format : MemoryFormat) (latest : LatestRevisions)
    (directory : RecordsDirectory) : Prop :=
  ∀ recordId,
    match latest recordId with
    | none => directory.read (.record recordId) = none
    | some record => record.header.recordId = recordId ∧ format.Holds directory record

/-- The current record a write was checked against is still the latest. -/
def Current (latest : LatestRevisions) (work : PublicationWork writer.format) : Prop :=
  ∀ current, work.current = some current → ∃ previous,
      latest work.record.header.recordId = some previous ∧
        current.revision = writer.format.digest previous ∧
        current.displayRevision = previous.header.displayRevision.value

structure Private (directory : RecordsDirectory) (file : TemporaryFile) : Prop where
  bound : directory.find file.name = some file.node
  unique : ∀ name, directory.find name = some file.node → name = file.name

/-- What holds of a write between its check and its commit. -/
def PhaseValid (latest : LatestRevisions) (directory : RecordsDirectory) :
    WritePhase writer.format → Prop
  | .openDirectorySync work | .createTemporary work => Current latest work
  | .temporary stage work file =>
    Current latest work ∧ Private directory file ∧
      (stage ≠ .writeTemporary → directory.content file.node = work.canonical)
  | _ => True

/-! ## Steps that leave the record files alone -/

/-- Every record file reads as before. -/
def KeepsRecords (before after : RecordsDirectory) : Prop :=
  ∀ recordId, after.read (.record recordId) = before.read (.record recordId)

variable {latest : LatestRevisions} {after directory : RecordsDirectory} {file : TemporaryFile}
  {process ordinal : Nat} {record : MemoryRecord} {created : Bool}
  {digest : MemoryRecord → CanonicalMemoryDigest}

theorem Reflects.of_keepsRecords {format : MemoryFormat}
    {before : RecordsDirectory} (reflects : Reflects format latest before)
    (keeps : KeepsRecords before after) :
    Reflects format latest after := by
  intro recordId
  have known := reflects recordId
  cases revision : latest recordId with
  | none =>
    rw [revision] at known
    exact (keeps recordId).trans known
  | some record =>
    rw [revision] at known
    obtain ⟨sameId, canonical, contents, presents⟩ := known
    exact ⟨sameId, canonical, (keeps _).trans contents, presents⟩

theorem Private.keepsRecords_write (isPrivate : Private directory file) (bytes : List UInt8) :
    KeepsRecords directory (directory.write file.node bytes) := by
  intro recordId
  refine LinkedDirectory.read_congr rfl fun node found => ?_
  refine directory.write_content_of_ne ?_ bytes
  rintro rfl
  cases isPrivate.unique _ found

theorem Private.write (isPrivate : Private directory file) (bytes : List UInt8) :
    Private (directory.write file.node bytes) file := ⟨isPrivate.bound, isPrivate.unique⟩

theorem keepsRecords_remove (directory : RecordsDirectory) (file : TemporaryFile) :
    KeepsRecords directory (directory.remove file.name) := by
  intro recordId
  unfold RecordsDirectory.remove
  split
  case h_1 after removed =>
      obtain ⟨_, others, sameContent⟩ := LinkedDirectory.removeFile_eq_ok removed
      refine LinkedDirectory.read_congr (others _ (by simp [TemporaryFile.name])) fun node _ => ?_
      rw [sameContent]
  case h_2 => rfl

theorem keepsRecords_createNew
    (created : directory.createNew (.temporary process ordinal) = .ok after) :
    KeepsRecords directory after := by
  intro recordId
  obtain ⟨_, _, others, content, _⟩ := LinkedDirectory.createNew_eq_ok created
  refine LinkedDirectory.read_congr (others _ (by simp)) fun node found => ?_
  rw [content]
  refine directory.write_content_of_ne ?_ []
  exact Nat.ne_of_lt (directory.lt_next_of_find found)

theorem private_of_createNew
    (created : directory.createNew (.temporary process ordinal) = .ok after) :
    Private after ⟨process, ordinal, directory.next⟩ := by
  obtain ⟨_, bound, others, _, _⟩ := LinkedDirectory.createNew_eq_ok created
  refine ⟨bound, fun name found => ?_⟩
  by_contra different
  rw [others name different] at found
  exact Nat.lt_irrefl _ (directory.lt_next_of_find found)

/-- Creating a temporary binds one free name to a node of its own. -/
theorem exists_createNew_of_createTemporary {ordinals : List Nat}
    (created : createTemporary directory process ordinals = some (after, file)) :
    ∃ ordinal ∈ ordinals,
      directory.createNew (.temporary process ordinal) = .ok after ∧
        file = ⟨process, ordinal, directory.next⟩ := by
  induction ordinals with
  | nil => cases created
  | cons ordinal rest hypothesis =>
    rw [createTemporary] at created
    split at created
    case h_1 bound isBound =>
        cases created
        exact ⟨ordinal, List.mem_cons_self, isBound, rfl⟩
    case h_2 =>
        obtain ⟨later, member, facts⟩ := hypothesis created
        exact ⟨later, List.mem_cons_of_mem _ member, facts⟩

/-! ## Publication -/

theorem checkedSuccessor_eq_some {value successor : UInt32}
    (incremented : checkedSuccessor value = some successor) :
    successor.toNat = value.toNat + 1 := by
  unfold checkedSuccessor at incremented
  split at incremented
  case isTrue room =>
      cases incremented
      rw [UInt32.toNat_add]
      exact Nat.mod_eq_of_lt room
  case isFalse => cases incremented

theorem follows_of_validateUpdate_none (admitted : validateUpdate record none = .ok created) :
    record.Follows digest none := by
  unfold validateUpdate at admitted
  simp only at admitted
  split at admitted
  case isTrue first =>
      refine ⟨first.1, ?_⟩
      rw [first.2]
      rfl
  case isFalse => cases admitted

theorem follows_of_validateUpdate_some {previous : MemoryRecord} {current : CurrentRecord}
    (sameRevision : current.revision = digest previous)
    (sameDisplay : current.displayRevision = previous.header.displayRevision.value)
    (admitted : validateUpdate record (some current) = .ok created) :
    record.Follows digest (some previous) := by
  unfold validateUpdate at admitted
  simp only at admitted
  split at admitted
  case isTrue => cases admitted
  case isFalse =>
      split at admitted
      case isFalse => cases admitted
      case isTrue sameParents =>
          split at admitted
          case h_1 => cases admitted
          case h_2 successor incremented =>
              split at admitted
              case isFalse => cases admitted
              case isTrue isSuccessor =>
                  refine ⟨sameRevision ▸ sameParents, ?_⟩
                  rw [isSuccessor, checkedSuccessor_eq_some incremented, sameDisplay]

theorem follows_of_current {work : PublicationWork writer.format} (isCurrent : Current latest work)
    (absent : work.current = none → latest work.record.header.recordId = none) :
    work.record.Follows writer.format.digest (latest work.record.header.recordId) := by
  have admitted := work.admitted
  cases checked : work.current with
  | none =>
    rw [checked] at admitted
    rw [absent checked]
    exact follows_of_validateUpdate_none admitted
  | some current =>
    rw [checked] at admitted
    obtain ⟨previous, isLatest, sameRevision, sameDisplay⟩ := isCurrent current checked
    rw [isLatest]
    exact follows_of_validateUpdate_some sameRevision sameDisplay admitted

/-- A step keeps the directory in line with what has been published. -/
structure Sound (latest : LatestRevisions) (advance : Advance writer.format) : Prop where
  follows : ∀ record, advance.event = .published record →
      record.Follows writer.format.digest (latest record.header.recordId)
  reflects : Reflects writer.format (latest.after advance.event) advance.directory
  phase : PhaseValid (latest.after advance.event) advance.directory advance.phase

/-- The record a write has committed but not yet returned. -/
def committed : WritePhase writer.format → Option MemoryRecord
  | .removeTemporary work _ | .verifyTarget work _ _
  | .syncDirectory work _ _ | .verifyRecordsDirectory work _ _ _ => some work.record
  | _ => none

/-- What one step of a call can show. -/
inductive Observed : WritePhase writer.format → WriteEvent → WritePhase writer.format → Prop where
  | progressed {phase next : WritePhase writer.format} (same : committed next = committed phase) :
      Observed phase .progressed next
  | published {phase next : WritePhase writer.format} {record : MemoryRecord}
      (before : committed phase = none)
      (now : committed next = some record) :
      Observed phase (.published record) next
  | refused {phase : WritePhase writer.format} (error : LocalMemoryManageError)
      (uncommitted : committed phase = none) :
      Observed phase (.returned (.error error)) (.returned (.error error))
  | receipted {phase : WritePhase writer.format} {record : MemoryRecord}
      (receipt : LocalMemoryWriteReceipt)
      (before : committed phase = some record)
      (revision : receipt.revision = writer.format.digest record) :
      Observed phase (.returned (.ok receipt)) (.returned (.ok receipt))
  | crashed {phase : WritePhase writer.format} : Observed phase .crashed .crashed

/-- A sound step of a call, with what it shows. -/
structure SoundFrom (latest : LatestRevisions) (start : WritePhase writer.format)
    (advance : Advance writer.format) : Prop extends Sound latest advance where
  observed : Observed start advance.event advance.phase

section Steps

variable {latest : LatestRevisions} {directory : RecordsDirectory}

section Reflects

variable (reflects : Reflects writer.format latest directory)

include reflects

variable {phase next : WritePhase writer.format} {work : PublicationWork writer.format}
  {file : TemporaryFile} {prepared : PreparedWrite writer.format} {environment : StepEnvironment}
  {stage : TemporaryStage}

theorem SoundFrom.progress (valid : PhaseValid latest directory next)
    (same : committed next = committed phase) :
    SoundFrom latest phase (.progress next directory) :=
  ⟨⟨fun _ published => (nomatch published), reflects, valid⟩, .progressed same⟩

theorem SoundFrom.refuse {error : LocalMemoryManageError} (uncommitted : committed phase = none) :
    SoundFrom latest phase (.refuse error directory) :=
  ⟨⟨fun _ published => (nomatch published), reflects, trivial⟩, .refused error uncommitted⟩

/-- Binding the target to the complete presentation publishes the record. -/
theorem sound_of_commit
    (follows :
      work.record.Follows writer.format.digest (latest work.record.header.recordId))
    (bound : after.read (.record work.record.header.recordId) = some work.canonical)
    (others : ∀ recordId, recordId ≠ work.record.header.recordId →
        after.read (.record recordId) = directory.read (.record recordId))
    (uncommitted : committed phase = none) (now : committed next = some work.record)
    (valid : ∀ later, PhaseValid later after next) :
    SoundFrom latest phase ⟨next, after, .published work.record⟩ := by
  refine ⟨⟨?_, ?_, valid _⟩, .published uncommitted now⟩
  · intro record published
    cases published
    exact follows
  · intro recordId
    by_cases same : recordId = work.record.header.recordId
    · subst same
      simp only [LatestRevisions.after, if_true]
      exact ⟨trivial, work.canonical, bound, work.presents⟩
    · have known := reflects recordId
      simp only [LatestRevisions.after, if_neg same]
      cases revision : latest recordId with
      | none =>
        rw [revision] at known
        exact (others recordId same).trans known
      | some record =>
        rw [revision] at known
        obtain ⟨sameId, canonical, contents, presents⟩ := known
        refine ⟨sameId, canonical, ?_, presents⟩
        rw [others _ (sameId ▸ same)]
        exact contents

theorem publish_sound (isCurrent : Current latest work)
    (isPrivate : Private directory file) (complete : directory.content file.node = work.canonical) :
    SoundFrom latest (.temporary stage work file) (writer.publish work file directory) := by
  have unrelated :
      directory.find (.record work.record.header.recordId) ≠ some file.node := fun found => by
    cases isPrivate.unique _ found
  unfold publish
  simp only
  split
  case h_1 first =>
      split
      case h_1 after linked =>
          obtain ⟨absent, bound, others, sameContent⟩ :=
            LinkedDirectory.hardLink_eq_ok isPrivate.bound linked
          refine sound_of_commit reflects ?_ ?_ ?_ rfl rfl fun _ => trivial
          · refine follows_of_current isCurrent fun _ => ?_
            have known := reflects work.record.header.recordId
            cases revision : latest work.record.header.recordId with
            | none => rfl
            | some record =>
              rw [revision] at known
              obtain ⟨sameId, canonical, contents, _⟩ := known
              rw [sameId, LinkedDirectory.read] at contents
              rw [target] at absent
              rw [absent] at contents
              cases contents
          · rw [LinkedDirectory.read, ← target, bound, Option.map_some, sameContent, complete]
          · intro recordId different
            refine LinkedDirectory.read_congr (others _ ?_) fun _ _ => ?_
            · simpa [target] using different
            · rw [sameContent]
      case h_2 => exact .progress reflects trivial rfl
      case h_3 => exact .progress reflects trivial rfl
  case h_2 expected checked =>
      split
      case h_1 after renamed =>
          obtain ⟨bound, others, sameContent⟩ :=
            LinkedDirectory.rename_eq_ok isPrivate.bound unrelated renamed
          refine sound_of_commit reflects ?_ ?_ ?_ rfl rfl fun _ => trivial
          · refine follows_of_current isCurrent fun first => ?_
            rw [checked] at first
            cases first
          · rw [LinkedDirectory.read, bound, Option.map_some, sameContent, complete]
          · intro recordId different
            refine LinkedDirectory.read_congr (others _ ?_ ?_) fun _ _ => ?_
            · simpa [target] using different
            · simp [TemporaryFile.name]
            · rw [sameContent]
      case h_2 => exact .progress reflects trivial rfl

theorem current_of_load {listing : List RecordsName} {loaded : LoadedMemoryRecord}
    (loading : writer.format.load directory listing prepared.record.header.recordId = .ok loaded) :
    ∃ previous, latest prepared.record.header.recordId = some previous ∧
        loaded.current.revision = writer.format.digest previous ∧
        loaded.current.displayRevision = previous.header.displayRevision.value := by
  obtain ⟨bytes, reading, parsed, _, isLoaded⟩ := MemoryFormat.load_eq_ok_iff.mp loading
  obtain ⟨_, node, found, _, _, contents⟩ := readUniqueExact_eq_ok_iff.mp reading
  have known := reflects prepared.record.header.recordId
  cases revision : latest prepared.record.header.recordId with
  | none =>
    rw [revision] at known
    simp only [LinkedDirectory.read, found, Option.map_some] at known
    cases known
  | some previous =>
    rw [revision] at known
    obtain ⟨sameId, canonical, stored, presents⟩ := known
    rw [sameId, LinkedDirectory.read, found, Option.map_some, contents, Option.some_inj] at stored
    have sameRecord : loaded.record = previous := by
      rw [stored, presents.parses] at parsed
      exact (Except.ok.inj parsed).symm
    refine ⟨previous, rfl, ?_, ?_⟩
    · rw [isLoaded, ← sameRecord]
      rfl
    · rw [← sameRecord]
      rfl

theorem checkUpdate_sound :
    SoundFrom latest (.leased prepared) (writer.checkUpdate environment prepared directory) := by
  unfold checkUpdate
  simp only
  split
  case h_1 => exact .refuse reflects rfl
  case h_2 current read =>
      split
      case h_1 => exact .refuse reflects rfl
      case h_2 created admitted =>
          refine .progress reflects ?_ rfl
          intro expected isExpected
          simp only at isExpected
          subst isExpected
          unfold currentRecord at read
          split at read
          case h_1 loaded loading =>
              cases read
              split at loading
              case h_1 => cases loading
              case h_2 => exact current_of_load reflects loading
          case h_2 => cases read
          case h_3 => cases read

theorem advanceTemporary_sound (valid : PhaseValid latest directory (.temporary stage work file)) :
    SoundFrom latest (.temporary stage work file)
      (writer.advanceTemporary environment stage work file directory) := by
  obtain ⟨isCurrent, isPrivate, complete⟩ := valid
  cases stage with
  | writeTemporary =>
    refine .progress (reflects.of_keepsRecords (isPrivate.keepsRecords_write _))
        ⟨isCurrent, isPrivate.write _, fun _ => ?_⟩ rfl
    exact directory.write_content_self _ _
  | syncTemporary => exact .progress reflects ⟨isCurrent, isPrivate, fun _ => complete nofun⟩ rfl
  | inspectTemporary =>
    unfold advanceTemporary
    simp only
    split
    · exact .progress reflects ⟨isCurrent, isPrivate, fun _ => complete nofun⟩ rfl
    · exact .progress reflects trivial rfl
  | revalidateCurrent =>
    have onward : PhaseValid latest directory (.temporary .publishTarget work file) :=
      ⟨isCurrent, isPrivate, fun _ => complete nofun⟩
    unfold advanceTemporary
    simp only
    split
    · exact .progress reflects onward rfl
    · split
      · exact .progress reflects onward rfl
      · exact .progress reflects trivial rfl
  | publishTarget => exact publish_sound reflects isCurrent isPrivate (complete nofun)

theorem failTemporary_sound {fault : StepFault} (isPrivate : Private directory file) :
    SoundFrom latest (.temporary stage work file)
      (writer.failTemporary fault stage work file directory) := by
  refine .progress ?_ trivial rfl
  split
  · exact reflects.of_keepsRecords (isPrivate.keepsRecords_write _)
  · exact reflects

/-- Every step of a write keeps the directory in line. -/
theorem advance_sound {request : LocalMemoryWriteRequest} {leaseFree : Bool}
    (valid : PhaseValid latest directory phase) :
    SoundFrom latest phase (writer.advance request environment leaseFree phase directory) := by
  have removed (file : TemporaryFile) :
      Reflects writer.format latest (directory.remove file.name) :=
    reflects.of_keepsRecords (keepsRecords_remove directory file)
  cases phase with
  | requested =>
    unfold advance
    simp only
    split
    · exact .refuse reflects rfl
    · exact .refuse reflects rfl
    · exact .progress reflects trivial rfl
  | waiting prepared =>
    unfold advance
    simp only
    split
    · exact .refuse reflects rfl
    · cases leaseFree with
      | false => exact .progress reflects trivial rfl
      | true => exact .progress reflects trivial rfl
  | leased prepared =>
    unfold advance
    simp only
    split
    · split
      · exact checkUpdate_sound reflects
      · exact .refuse reflects rfl
    · exact checkUpdate_sound reflects
  | openDirectorySync work =>
    unfold advance
    simp only
    split
    · exact .refuse reflects rfl
    · exact .progress reflects valid rfl
  | createTemporary work =>
    unfold advance
    simp only
    split
    · exact .refuse reflects rfl
    · exact .refuse reflects rfl
    case h_3 after file created =>
        obtain ⟨ordinal, _, bound, rfl⟩ := exists_createNew_of_createTemporary created
        exact
          .progress (reflects.of_keepsRecords (keepsRecords_createNew bound))
            ⟨valid, private_of_createNew bound, fun other => absurd rfl other⟩ rfl
  | temporary stage work file =>
    unfold advance
    simp only
    split
    · exact failTemporary_sound reflects valid.2.1
    · exact advanceTemporary_sound reflects valid
  | cleanupTemporary file error =>
    refine .refuse ?_ rfl
    split
    · exact removed file
    · exact reflects
  | removeTemporary work file =>
    have removing := removed file
    unfold RecordsDirectory.remove at removing
    unfold advance
    simp only
    split
    case h_1 after isRemoved =>
        rw [isRemoved] at removing
        exact .progress removing trivial rfl
    case h_2 => exact .progress reflects trivial rfl
  | verifyTarget work node cleanup => exact .progress reflects trivial rfl
  | syncDirectory work cleanup target => exact .progress reflects trivial rfl
  | verifyRecordsDirectory work cleanup target sync =>
    exact ⟨⟨fun _ published => (nomatch published), reflects, trivial⟩, .receipted _ rfl rfl⟩
  | returned result => exact .progress reflects trivial rfl
  | crashed => exact .progress reflects trivial rfl

end Reflects

variable {phase : WritePhase writer.format} {request : LocalMemoryWriteRequest}
  {environment : StepEnvironment} {leaseFree : Bool}

theorem phaseValid_of_not_holdsLease (outside : phase.holdsLease = false) :
    PhaseValid latest directory phase := by
  cases phase with
  | openDirectorySync | createTemporary | temporary => cases outside
  | requested | waiting | leased | cleanupTemporary | removeTemporary
  | verifyTarget | syncDirectory | verifyRecordsDirectory | returned
  | crashed => trivial

/-- A call that does not hold the lease touches nothing, and takes it only while it is free. -/
theorem advance_outside (outside : phase.holdsLease = false) :
    (writer.advance request environment leaseFree phase directory).directory = directory ∧
      latest.after
          (writer.advance request environment leaseFree phase directory).event = latest ∧
      ((writer.advance request environment leaseFree phase directory).phase.holdsLease = true →
        leaseFree = true) := by
  cases phase with
  | leased | openDirectorySync | createTemporary | temporary
  | cleanupTemporary | removeTemporary | verifyTarget | syncDirectory
  | verifyRecordsDirectory => cases outside
  | requested =>
    unfold advance
    simp only
    split <;> exact ⟨rfl, rfl, fun taken => by cases taken⟩
  | waiting prepared =>
    unfold advance
    simp only
    split
    · exact ⟨rfl, rfl, fun taken => by cases taken⟩
    · cases leaseFree with
      | false => exact ⟨rfl, rfl, id⟩
      | true => exact ⟨rfl, rfl, id⟩
  | returned | crashed => exact ⟨rfl, rfl, fun taken => by cases taken⟩

end Steps

/-! ## Whole runs -/

section Runs

variable {requests : Call → LocalMemoryWriteRequest} {latest : LatestRevisions}
  {state before after final : System writer Call}

/-- The invariant of the system, against what has been published. -/
structure Valid (latest : LatestRevisions) (state : System writer Call) : Prop where
  reflects : Reflects writer.format latest state.directory
  exclusive : ∀ call, (state.phase call).holdsLease = true → state.holder = some call
  phases : ∀ call, PhaseValid latest state.directory (state.phase call)

omit [DecidableEq Call] in
theorem valid_initial : Valid (fun _ => none) (System.initial writer : System writer Call) where
  reflects := fun _ => rfl
  exclusive := fun _ held => by cases held
  phases := fun _ => trivial

variable {call : Call} {label : Call × WriteEvent} {labels : List (Call × WriteEvent)}
  {work : PublicationWork writer.format} {file : TemporaryFile} {directory : RecordsDirectory}
  {phase : WritePhase writer.format} {environment : StepEnvironment}

/-- A sound step of one call keeps the invariant. -/
theorem Valid.afterStep {advance : Advance writer.format} (valid : Valid latest state)
    (sound : Sound latest advance)
    (outside :
      (state.phase call).holdsLease = false →
        advance.directory = state.directory ∧
          latest.after advance.event = latest ∧
          (advance.phase.holdsLease = true → state.holder = none)) :
    Valid (latest.after advance.event) (state.after call advance) where
  reflects := sound.reflects
  exclusive := by
    intro other held
    by_cases same : other = call
    · subst same
      simp only [System.after, if_true] at held ⊢
      rw [if_pos held]
    · simp only [System.after, if_neg same] at held ⊢
      have isHolder := valid.exclusive other held
      have notHolder : state.holder ≠ some call := by
        rw [isHolder]
        exact fun equal => same (Option.some.inj equal)
      rw [if_neg notHolder, if_neg ?_, isHolder]
      intro taken
      cases inside : (state.phase call).holdsLease with
      | true => exact notHolder (valid.exclusive call inside)
      | false =>
        rw [(outside inside).2.2 taken] at isHolder
        cases isHolder
  phases := by
    intro other
    by_cases same : other = call
    · subst same
      simp only [System.after, if_true]
      exact sound.phase
    · simp only [System.after, if_neg same]
      cases inside : (state.phase call).holdsLease with
      | true =>
        refine phaseValid_of_not_holdsLease ?_
        by_contra held
        have isHolder := valid.exclusive other (Bool.eq_true_of_not_eq_false held)
        rw [valid.exclusive call inside] at isHolder
        exact same (Option.some.inj isHolder).symm
      | false =>
        obtain ⟨sameDirectory, sameLatest, _⟩ := outside inside
        rw [sameDirectory, sameLatest]
        exact valid.phases other

/-- A step is sound for its own call and leaves the others. -/
theorem valid_of_step (step : Step requests before label after) (valid : Valid latest before) :
    Valid (latest.after label.2) after ∧
      (∀ record, label.2 = .published record →
        record.Follows writer.format.digest (latest record.header.recordId)) ∧
      Observed (before.phase label.1) label.2 (after.phase label.1) := by
  cases step with
  | @advanced call environment running =>
    have sound : SoundFrom latest (before.phase call) (before.advance requests call environment) :=
      advance_sound valid.reflects (valid.phases call)
    refine ⟨valid.afterStep sound.toSound fun outside => ?_, sound.follows, ?_⟩
    · obtain ⟨sameDirectory, sameLatest, free⟩ := advance_outside outside
      exact ⟨sameDirectory, sameLatest, fun taken => Option.isNone_iff_eq_none.mp (free taken)⟩
    · simp only [System.after, if_true]
      exact sound.observed
  | @crashed call running =>
    have sound : SoundFrom latest (before.phase call)
        (⟨.crashed, before.directory, .crashed⟩ : Advance writer.format) :=
      ⟨⟨fun _ published => (nomatch published), valid.reflects, trivial⟩, .crashed⟩
    refine ⟨valid.afterStep sound.toSound fun _ => ⟨rfl, rfl, fun taken => ?_⟩, sound.follows, ?_⟩
    · cases taken
    · simp only [System.after, if_true]
      exact .crashed

/-! ## What a run has published -/

def publication? (recordId : MemoryRecordId) : WriteEvent → Option MemoryRecord
  | .published record => if record.header.recordId = recordId then some record else none
  | _ => none

/-- The revisions of a record that a run publishes, in order. -/
def publications (recordId : MemoryRecordId)
    (labels : List (Call × WriteEvent)) : List MemoryRecord :=
  labels.filterMap (fun label => publication? recordId label.2)

theorem latestRevisions_after_eq (recordId : MemoryRecordId) (event : WriteEvent) :
    latest.after event recordId = (publication? recordId event).or (latest recordId) := by
  cases event with
  | published record =>
    by_cases same : recordId = record.header.recordId
    · simp [LatestRevisions.after, publication?, same]
    · simp [LatestRevisions.after, publication?, same, Ne.symm same]
  | progressed | returned | crashed => rfl

/-- The latest revisions after a run from given ones. -/
def latestAfter (latest : LatestRevisions) (labels : List (Call × WriteEvent)) : LatestRevisions :=
  fun recordId => (publications recordId labels).getLast?.or (latest recordId)

omit [DecidableEq Call] in
theorem publications_cons (recordId : MemoryRecordId) (label : Call × WriteEvent)
    (labels : List (Call × WriteEvent)) :
    publications recordId (label :: labels) =
      (publication? recordId label.2).toList ++ publications recordId labels := by
  cases published : publication? recordId label.2 with
  | none => simp [publications, published]
  | some record => simp [publications, published]

omit [DecidableEq Call] in
theorem latestAfter_cons (label : Call × WriteEvent) (labels : List (Call × WriteEvent)) :
    latestAfter latest (label :: labels) = latestAfter (latest.after label.2) labels := by
  funext recordId
  rw [latestAfter, latestAfter, publications_cons, List.getLast?_append,
    latestRevisions_after_eq, Option.or_assoc]
  cases publication? recordId label.2 with
  | none => rfl
  | some record => rfl

omit [DecidableEq Call] in
theorem latestAfter_none (labels : List (Call × WriteEvent)) :
    latestAfter (fun _ => none) labels =
      fun recordId => (publications recordId labels).getLast? := by
  funext recordId
  exact Option.or_none

theorem valid_of_run (run : Run (Step requests) before labels final) (valid : Valid latest before) :
    Valid (latestAfter latest labels) final ∧
      ∀ recordId,
        LinearFrom writer.format.digest (latest recordId) (publications recordId labels) := by
  induction run generalizing latest with
  | done state => exact ⟨valid, fun _ => trivial⟩
  | @more before middle final label labels first later hypothesis =>
    obtain ⟨stepValid, follows, _⟩ := valid_of_step first valid
    obtain ⟨finalValid, linear⟩ := hypothesis stepValid
    refine ⟨latestAfter_cons label labels ▸ finalValid, fun recordId => ?_⟩
    have later := linear recordId
    rw [latestRevisions_after_eq] at later
    rw [publications_cons]
    cases published : publication? recordId label.2 with
    | none =>
      rw [published] at later
      exact later
    | some record =>
      rw [published] at later
      unfold publication? at published
      split at published
      case h_1 event =>
          split at published
          case isTrue same =>
              cases published
              exact ⟨same ▸ follows record event, later⟩
          case isFalse => cases published
      case h_2 => cases published

/-! ## What a call returns -/

/-- A step is one of a running call and leaves the others. -/
theorem running_of_step (step : Step requests before label after) :
    (before.phase label.1).finished = false ∧
      ∀ other, other ≠ label.1 → after.phase other = before.phase other := by
  cases step with
  | advanced environment running => exact ⟨running, fun other different => if_neg different⟩
  | crashed running => exact ⟨running, fun other different => if_neg different⟩

/-- What one call shows from a phase on that has committed a record or not. -/
inductive CallHistory (digest : MemoryRecord → CanonicalMemoryDigest) :
    Option MemoryRecord → List WriteEvent → Prop where
  | pending (commit : Option MemoryRecord) : CallHistory digest commit []
  | progressed {commit : Option MemoryRecord} {later : List WriteEvent}
      (rest : CallHistory digest commit later) :
      CallHistory digest commit (.progressed :: later)
  | published {record : MemoryRecord} {later : List WriteEvent}
      (rest : CallHistory digest (some record) later) :
      CallHistory digest none (.published record :: later)
  | refused (error : LocalMemoryManageError) : CallHistory digest none [.returned (.error error)]
  | receipted {record : MemoryRecord} (receipt : LocalMemoryWriteReceipt)
      (revision : receipt.revision = digest record) :
      CallHistory digest (some record) [.returned (.ok receipt)]
  | crashed (commit : Option MemoryRecord) : CallHistory digest commit [.crashed]

/-- The events of one call in a run. -/
def eventsOf (call : Call) (labels : List (Call × WriteEvent)) : List WriteEvent :=
  labels.filterMap (fun label => if label.1 = call then some label.2 else none)

theorem mem_eventsOf {event : WriteEvent} :
    event ∈ eventsOf call labels ↔ (call, event) ∈ labels := by
  simp [eventsOf]

theorem eventsOf_cons_self (label : Call × WriteEvent) (labels : List (Call × WriteEvent)) :
    eventsOf label.1 (label :: labels) = label.2 :: eventsOf label.1 labels := by
  simp [eventsOf]

theorem eventsOf_cons_of_ne (different : label.1 ≠ call) (labels : List (Call × WriteEvent)) :
    eventsOf call (label :: labels) = eventsOf call labels := by
  simp [eventsOf, different]

/-- A call that has returned or crashed shows nothing more. -/
theorem eventsOf_of_finished
    (run : Run (Step requests) before labels final) (ended : (before.phase call).finished = true) :
    eventsOf call labels = [] := by
  induction run with
  | done state => rfl
  | @more before middle final label labels first later hypothesis =>
    obtain ⟨running, others⟩ := running_of_step first
    have different : label.1 ≠ call := by
      rintro rfl
      rw [ended] at running
      cases running
    rw [eventsOf_cons_of_ne different]
    exact hypothesis (others call (Ne.symm different) ▸ ended)

theorem callHistory_of_run (run : Run (Step requests) before labels final)
    (valid : Valid latest before) (call : Call) :
    CallHistory writer.format.digest (committed (before.phase call)) (eventsOf call labels) := by
  induction run generalizing latest with
  | done state => exact .pending _
  | @more before middle final label labels first later hypothesis =>
    obtain ⟨_, others⟩ := running_of_step first
    obtain ⟨stepValid, _, observed⟩ := valid_of_step first valid
    replace hypothesis := hypothesis stepValid
    by_cases own : label.1 = call
    · subst own
      rw [eventsOf_cons_self]
      obtain ⟨call, event⟩ := label
      simp only at observed hypothesis ⊢
      generalize next : middle.phase call = reached at observed
      rw [next] at hypothesis
      have silent (ended : reached.finished = true) : eventsOf call labels = [] :=
        eventsOf_of_finished later (next ▸ ended)
      cases observed with
      | progressed same => exact .progressed (same ▸ hypothesis)
      | published isBefore now =>
        rw [isBefore]
        exact .published (now ▸ hypothesis)
      | refused error uncommitted =>
        rw [uncommitted, silent rfl]
        exact .refused error
      | receipted receipt isBefore revision =>
        rw [isBefore, silent rfl]
        exact .receipted receipt revision
      | crashed =>
        rw [silent rfl]
        exact .crashed _
    · rw [eventsOf_cons_of_ne own, ← others call (Ne.symm own)]
      exact hypothesis

namespace CallHistory

variable {digest : MemoryRecord → CanonicalMemoryDigest} {commit : Option MemoryRecord}
  {events : List WriteEvent}

theorem committed_once (history : CallHistory digest commit events)
    (isCommitted : commit = some record) :
    (∀ other, .published other ∉ events) ∧
      (∀ error, .returned (.error error) ∉ events) ∧
      ∀ receipt, .returned (.ok receipt) ∈ events → receipt.revision = digest record := by
  induction history with
  | pending => simp
  | progressed rest hypothesis => simpa using hypothesis isCommitted
  | published | refused => cases isCommitted
  | receipted receipt revision =>
    cases isCommitted
    simp [revision]
  | crashed => simp

/-- A write that returns an error has published nothing. -/
theorem not_published_of_refused {error : LocalMemoryManageError}
    (history : CallHistory digest commit events) (refused : .returned (.error error) ∈ events)
    (record : MemoryRecord) :
    .published record ∉ events := by
  induction history with
  | pending | receipted | crashed => simp at refused
  | progressed rest hypothesis => simpa using hypothesis (by simpa using refused)
  | published rest =>
    have later := (rest.committed_once rfl).2.1 error
    simp [later] at refused
  | refused => simp

theorem published_of_receipted {receipt : LocalMemoryWriteReceipt}
    (history : CallHistory digest commit events) (uncommitted : commit = none)
    (receipted : .returned (.ok receipt) ∈ events) :
    ∃ record, .published record ∈ events ∧ receipt.revision = digest record := by
  induction history with
  | pending | refused | crashed => simp at receipted
  | progressed rest hypothesis =>
    obtain ⟨record, published, revision⟩ :=
      hypothesis uncommitted (by simpa using receipted)
    exact ⟨record, List.mem_cons_of_mem _ published, revision⟩
  | @published record later rest =>
    refine ⟨record, List.mem_cons_self, ?_⟩
    exact (rest.committed_once rfl).2.2 receipt (by simpa using receipted)
  | receipted => cases uncommitted

end CallHistory

omit [DecidableEq Call] in
theorem mem_publications (published : (call, .published record) ∈ labels) :
    record ∈ publications record.header.recordId labels :=
  List.mem_filterMap.mpr ⟨_, published, if_pos rfl⟩

/-- Equal latest revisions are equal files. -/
theorem read_eq_of_reflects {format : MemoryFormat} {first second : RecordsDirectory}
    {earlier later : LatestRevisions} {recordId : MemoryRecordId}
    (reflectsFirst : Reflects format earlier first) (reflectsSecond : Reflects format later second)
    (same : later recordId = earlier recordId) :
    second.read (.record recordId) = first.read (.record recordId) := by
  have knownFirst := reflectsFirst recordId
  have knownSecond := reflectsSecond recordId
  rw [same] at knownSecond
  cases revision : earlier recordId with
  | none =>
    rw [revision] at knownFirst knownSecond
    exact knownSecond.trans knownFirst.symm
  | some record =>
    rw [revision] at knownFirst knownSecond
    obtain ⟨sameId, one, readOne, presentsOne⟩ := knownFirst
    obtain ⟨_, other, readOther, presentsOther⟩ := knownSecond
    have sameBytes : other = one :=
      Except.ok.inj (presentsOther.generated.symm.trans presentsOne.generated)
    rw [← sameId, readOne, readOther, sameBytes]

end Runs

/-! ## Linearization -/

structure Linearized (requests : Call → LocalMemoryWriteRequest) (labels : List (Call × WriteEvent))
    (final : System writer Call) : Prop where
  chain : ∀ recordId, LinearFrom writer.format.digest none (publications recordId labels)
  complete :
    Reflects writer.format (fun recordId => (publications recordId labels).getLast?) final.directory
  unchanged : ∀ earlier label later before after,
      labels = earlier ++ label :: later →
        Run (Step requests) (System.initial writer) earlier before →
          Step requests before label after →
            ∀ recordId, publication? recordId label.2 = none →
              after.directory.read (.record recordId) = before.directory.read (.record recordId)
  refused : ∀ call error, (call, .returned (.error error)) ∈ labels →
      ∀ record, (call, .published record) ∉ labels
  receipted : ∀ call receipt, (call, .returned (.ok receipt)) ∈ labels →
      ∃ record, (call, .published record) ∈ labels ∧
          record ∈ publications record.header.recordId labels ∧
          receipt.revision = writer.format.digest record

/-- Every run of concurrent writes publishes linear chains. -/
theorem run_linearized {requests : Call → LocalMemoryWriteRequest}
    {labels : List (Call × WriteEvent)} {final : System writer Call}
    (run : Run (Step requests) (System.initial writer) labels final) :
    Linearized requests labels final := by
  obtain ⟨valid, linear⟩ := valid_of_run run valid_initial
  have history := callHistory_of_run run valid_initial
  refine ⟨linear, ?_, ?_, ?_, ?_⟩
  · exact latestAfter_none labels ▸ valid.reflects
  · intro earlier label later before after _ front step recordId silent
    obtain ⟨beforeValid, _⟩ := valid_of_run front valid_initial
    obtain ⟨afterValid, _, _⟩ := valid_of_step step beforeValid
    refine read_eq_of_reflects beforeValid.reflects afterValid.reflects ?_
    rw [latestRevisions_after_eq, silent, Option.none_or]
  · intro call error returned record published
    exact (history call).not_published_of_refused (mem_eventsOf.mpr returned)
        record (mem_eventsOf.mpr published)
  · intro call receipt returned
    obtain ⟨record, published, revision⟩ :=
      (history call).published_of_receipted rfl (mem_eventsOf.mpr returned)
    rw [mem_eventsOf] at published
    exact ⟨record, published, mem_publications published, revision⟩

end MemoryWriter

namespace SampleWrites

open MemoryWriter

/-- A write that starts over an empty directory and meets no fault. -/
def smooth : StepEnvironment where
  fault := none
  listing := [.record 0]
  ordinals := fun attempt => attempt.val

def write (input : List UInt8) : LocalMemoryWriteRequest where
  repositoryIdentity := .ok 4
  input := input
  process := 7

/-- Two calls write the first revision of one record, the others its successor. -/
def requests (call : Nat) : LocalMemoryWriteRequest := write (if call < 2 then [1] else [2])

/-- Two calls run to their ends; the third stops with its temporary file in place. -/
def interrupted : List (Nat × WriteEvent) × System writer Nat :=
  let first := (System.initial writer).play requests 0 (List.replicate 20 smooth)
  let refused := first.2.play requests 1 (List.replicate 20 smooth)
  let stopped := refused.2.play requests 2 (List.replicate 6 smooth)
  (first.1 ++ refused.1 ++ stopped.1, stopped.2)

/-- The third call crashes there, and the fourth runs to its end. -/
def resumed : List (Nat × WriteEvent) × System writer Nat :=
  let crashed := interrupted.2.after 2 ⟨.crashed, interrupted.2.directory, .crashed⟩
  let last := crashed.play requests 3
    (List.replicate 20 { smooth with listing := crashed.directory.names })
  (interrupted.1 ++ (2, .crashed) :: last.1, last.2)

theorem run_resumed : Run (Step requests) (System.initial writer) resumed.1 resumed.2 := by
  have started : Run (Step requests) (System.initial writer) interrupted.1 interrupted.2 :=
    ((System.run_play _ _ _ _).append (System.run_play _ _ _ _)).append (System.run_play _ _ _ _)
  exact started.append (.more (.crashed (by rfl)) (System.run_play _ _ _ _))

/-- The first call publishes, the second is refused, the third leaves a file
behind and the fourth publishes the successor. -/
theorem run_linearized_resumed : publications 0 resumed.1 = [first, second] ∧
      (1, .returned (.error .writeConflict)) ∈ resumed.1 ∧
      (2, .crashed) ∈ resumed.1 ∧
      resumed.2.directory.names = [.temporary 7 0, .record 0] ∧
      Linearized requests resumed.1 resumed.2 := by
  refine ⟨by rfl, ?_, ?_, by rfl, run_linearized run_resumed⟩
  · rw [← mem_eventsOf]
    exact List.mem_of_getLast? (by rfl)
  · rw [← mem_eventsOf]
    exact List.mem_of_getLast? (by rfl)

end SampleWrites

end RepoWitness
