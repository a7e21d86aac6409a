import RepoWitness.LinkedDirectory
import RepoWitness.MemoryRecordModel
import RepoWitness.PolledComputation

namespace RepoWitness

/-!
# Loading worktree memory records

The records directory of a worktree holds one file for each record identity,
beside the temporary files of writes that are under way or were cut off.  The
loader admits a file only under its exact name, with one link, within the byte
limit and with a record of the identity the name tells.
-/

def maxMemoryYamlBytes : Nat := 64 * 1024

def maxExactDirectoryEntries : Nat := 65536

inductive MemoryFormatError where
  | inputTooLarge
  | invalidYaml
  | invalidRecord (error : MemoryRecordError)
  | invalidCanonicalRecord
  | canonicalizationFailed
  | generationFailed
  | cancelled
  | deadlineExceeded
  deriving DecidableEq

/--
The YAML presentation of records and the digests over it.  The reader and the
generator are the two sides of one library format: where both succeed, reading
a generated presentation gives the record back.
-/
structure MemoryFormat where
  readYaml : List UInt8 → Except MemoryFormatError MemoryRecord
  generateMemoryYaml : MemoryRecord → Except MemoryFormatError (List UInt8)
  digest : MemoryRecord → CanonicalMemoryDigest
  presentation : List UInt8 → Bytes32
  readsBack : ∀ record canonical readBack,
      generateMemoryYaml record = .ok canonical →
        readYaml canonical = .ok readBack → readBack = record

def MemoryFormat.parseMemoryRecord (format : MemoryFormat)
    (input : List UInt8) : Except MemoryFormatError MemoryRecord :=
  if input.length > maxMemoryYamlBytes then
    .error .inputTooLarge
  else
    format.readYaml input

/-- The bytes are the complete canonical presentation of the record. -/
structure MemoryFormat.Presents (format : MemoryFormat) (record : MemoryRecord)
    (canonical : List UInt8) : Prop where
  generated : format.generateMemoryYaml record = .ok canonical
  parses : format.parseMemoryRecord canonical = .ok record

/-- File names of the records directory. -/
inductive RecordsName where
  | record (recordId : MemoryRecordId)
  | temporary (process ordinal : Nat)
  deriving DecidableEq

abbrev RecordsDirectory := LinkedDirectory RecordsName UInt8

inductive ContainedSourceError where
  | exactComponentUnavailable
  | directoryEntryLimitExceeded (limit : Nat)
  | fileOpen
  | linkCountNotUnique
  | fileByteLimitExceeded (limit : Nat)
  deriving DecidableEq

inductive MemoryFileImportError where
  | repositoryUnavailable
  | fileUnavailable
  | notRegularFile
  | multipleLinks
  | inputTooLarge
  | invalidRecord
  | recordIdMismatch
  | configurationInvalid
  | cancelled
  | deadlineExceeded
  deriving DecidableEq

def mapSourceError : ContainedSourceError → MemoryFileImportError
  | .linkCountNotUnique => .multipleLinks
  | .fileByteLimitExceeded _ => .inputTooLarge
  | .exactComponentUnavailable | .directoryEntryLimitExceeded _
  | .fileOpen => .fileUnavailable

def mapFormatError : MemoryFormatError → MemoryFileImportError
  | .inputTooLarge => .inputTooLarge
  | .cancelled => .cancelled
  | .deadlineExceeded => .deadlineExceeded
  | .invalidYaml | .invalidRecord _ | .invalidCanonicalRecord
  | .canonicalizationFailed | .generationFailed => .invalidRecord

def exactEntry (expected : RecordsName) : List RecordsName → Nat → Except ContainedSourceError Unit
  | [], _ => .error .exactComponentUnavailable
  | entry :: rest, inspected =>
    if inspected + 1 > maxExactDirectoryEntries then
      .error (.directoryEntryLimitExceeded maxExactDirectoryEntries)
    else if entry = expected then
      .ok ()
    else
      exactEntry expected rest (inspected + 1)

/--
Read the bytes of one file with a unique link.  The listing is the order in
which the file system enumerates the directory.
-/
def readUniqueExact (directory : RecordsDirectory) (listing : List RecordsName)
    (name : RecordsName) : Except ContainedSourceError (List UInt8) := do
  exactEntry name listing 0
  match directory.find name with
  | none => .error .fileOpen
  | some node =>
    if directory.links node ≠ 1 then
      .error .linkCountNotUnique
    else if (directory.content node).length > maxMemoryYamlBytes then
      .error (.fileByteLimitExceeded maxMemoryYamlBytes)
    else
      .ok (directory.content node)

structure LoadedMemoryRecord where
  record : MemoryRecord
  revision : CanonicalMemoryDigest
  presentation : Bytes32
  deriving DecidableEq

/-- What loading the complete presentation of a record gives. -/
def MemoryFormat.loaded (format : MemoryFormat) (record : MemoryRecord)
    (canonical : List UInt8) : LoadedMemoryRecord where
  record := record
  revision := format.digest record
  presentation := format.presentation canonical

def MemoryFormat.load (format : MemoryFormat) (directory : RecordsDirectory)
    (listing : List RecordsName) (expected : MemoryRecordId) :
    Except MemoryFileImportError LoadedMemoryRecord := do
  let bytes ← (readUniqueExact directory listing (.record expected)).mapError mapSourceError
  let record ← (format.parseMemoryRecord bytes).mapError mapFormatError
  if record.header.recordId ≠ expected then
    .error .recordIdMismatch
  else
    .ok (format.loaded record bytes)

/-! ## What the loader admits -/

theorem MemoryFormat.Presents.length_le {format : MemoryFormat} {record : MemoryRecord}
    {canonical : List UInt8} (presents : format.Presents record canonical) :
    canonical.length ≤ maxMemoryYamlBytes := by
  have parses := presents.parses
  unfold MemoryFormat.parseMemoryRecord at parses
  split at parses
  case isTrue => cases parses
  case isFalse fits => exact Nat.le_of_not_gt fits

variable {expected : RecordsName} {listing : List RecordsName} {inspected : Nat}

/-- A name is found among few enough entries, whatever their order. -/
theorem exactEntry_of_mem
    (listed : expected ∈ listing) (few : inspected + listing.length ≤ maxExactDirectoryEntries) :
    exactEntry expected listing inspected = .ok () := by
  induction listing generalizing inspected with
  | nil => cases listed
  | cons entry rest hypothesis =>
    rw [List.length_cons] at few
    rw [exactEntry, if_neg (by omega)]
    by_cases here : entry = expected
    · rw [if_pos here]
    · rw [if_neg here]
      refine hypothesis ?_ (by omega)
      exact (List.mem_cons.mp listed).resolve_left (Ne.symm here)

theorem exactEntry_behind {earlier later : List RecordsName} (absent : expected ∉ earlier)
    (many : maxExactDirectoryEntries ≤ inspected + earlier.length) :
    exactEntry expected (earlier ++ later) inspected ≠ .ok () := by
  induction earlier generalizing inspected with
  | nil =>
    cases later with
    | nil => simp [exactEntry]
    | cons entry rest =>
      rw [List.length_nil] at many
      rw [List.nil_append, exactEntry, if_pos (by omega)]
      simp
  | cons entry rest hypothesis =>
    rw [List.mem_cons, not_or] at absent
    rw [List.length_cons] at many
    rw [List.cons_append, exactEntry]
    split
    · simp
    · rw [if_neg (Ne.symm absent.1)]
      exact hypothesis absent.2 (by omega)

theorem readUniqueExact_eq_ok_iff {directory : RecordsDirectory}
    {name : RecordsName} {bytes : List UInt8} :
    readUniqueExact directory listing name = .ok bytes ↔
      exactEntry name listing 0 = .ok () ∧
        ∃ node, directory.find name = some node ∧
          directory.links node = 1 ∧
          (directory.content node).length ≤ maxMemoryYamlBytes ∧
          directory.content node = bytes := by
  unfold readUniqueExact
  rw [except_bind_eq_ok_iff]
  constructor
  · rintro ⟨_, found, reading⟩
    refine ⟨found, ?_⟩
    split at reading
    case h_1 => cases reading
    case h_2 node bound =>
        split at reading
        case isTrue => cases reading
        case isFalse single =>
            split at reading
            case isTrue => cases reading
            case isFalse fits =>
                cases reading
                exact ⟨node, bound, not_not.mp single, Nat.le_of_not_gt fits, rfl⟩
  · rintro ⟨found, node, bound, single, fits, rfl⟩
    refine ⟨(), found, ?_⟩
    rw [bound]
    simp [single, Nat.not_lt.mpr fits]

namespace MemoryFormat

variable {format : MemoryFormat} {directory : RecordsDirectory} {listing : List RecordsName}
  {expected : MemoryRecordId}

theorem load_eq_ok_iff {loaded : LoadedMemoryRecord} :
    format.load directory listing expected = .ok loaded ↔ ∃ bytes,
        readUniqueExact directory listing (.record expected) = .ok bytes ∧
          format.parseMemoryRecord bytes = .ok loaded.record ∧
          loaded.record.header.recordId = expected ∧
          loaded = format.loaded loaded.record bytes := by
  unfold load
  simp only [except_bind_eq_ok_iff, except_mapError_eq_ok_iff]
  constructor
  · rintro ⟨bytes, reading, record, parsed, checked⟩
    split at checked
    case isTrue => cases checked
    case isFalse same =>
        cases checked
        exact ⟨bytes, reading, parsed, not_not.mp same, rfl⟩
  · rintro ⟨bytes, reading, parsed, same, isLoaded⟩
    refine ⟨bytes, reading, loaded.record, parsed, ?_⟩
    rw [if_neg (not_not.mpr same), ← isLoaded]

def Loadable (format : MemoryFormat) (directory : RecordsDirectory)
    (record : MemoryRecord) : Prop :=
  ∀ listing, listing.Perm directory.names → ∃ canonical,
      format.load directory listing record.header.recordId = .ok (format.loaded record canonical)

def Holds (format : MemoryFormat) (directory : RecordsDirectory) (record : MemoryRecord) : Prop :=
  ∃ canonical,
    directory.read (.record record.header.recordId) = some canonical ∧
      format.Presents record canonical

variable {record : MemoryRecord}

variable {node : Nat}

theorem load_of_holds (holds : format.Holds directory record)
    (found : directory.find (.record record.header.recordId) = some node)
    (single : directory.links node = 1)
    (listed : exactEntry (.record record.header.recordId) listing 0 = .ok ()) :
    format.load directory listing record.header.recordId =
      .ok (format.loaded record (directory.content node)) := by
  obtain ⟨canonical, contents, presents⟩ := holds
  rw [LinkedDirectory.read, found, Option.map_some, Option.some_inj] at contents
  rw [contents, load_eq_ok_iff]
  refine ⟨canonical, ?_, presents.parses, rfl, rfl⟩
  exact readUniqueExact_eq_ok_iff.mpr
      ⟨listed, node, found, single, contents ▸ presents.length_le, contents⟩

theorem loadable_iff (holds : format.Holds directory record)
    (found : directory.find (.record record.header.recordId) = some node) :
    format.Loadable directory record ↔
      directory.links node = 1 ∧ directory.names.length ≤ maxExactDirectoryEntries := by
  have named := directory.mem_names_of_find found
  constructor
  · intro loadable
    -- The listing that puts the record's own name last decides the limit.
    obtain ⟨others, absent, count, order⟩ := directory.exists_listing_last named
    obtain ⟨canonical, loading⟩ := loadable _ order
    obtain ⟨bytes, reading, _⟩ := load_eq_ok_iff.mp loading
    obtain ⟨listed, bound, isBound, single, _⟩ := readUniqueExact_eq_ok_iff.mp reading
    obtain rfl : node = bound := Option.some.inj (found.symm.trans isBound)
    refine ⟨single, ?_⟩
    by_contra many
    exact exactEntry_behind absent (by omega) listed
  · rintro ⟨single, few⟩ listing enumerates
    refine ⟨_, load_of_holds holds found single ?_⟩
    refine exactEntry_of_mem (enumerates.mem_iff.mpr named) ?_
    rw [Nat.zero_add, enumerates.length_eq]
    exact few

end MemoryFormat

end RepoWitness
