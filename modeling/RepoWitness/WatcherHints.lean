import Std.Data.TreeSet
import RepoWitness.RepositoryPath
import RepoWitness.WatcherSchedule

namespace RepoWitness

open Std

/-!
# Bounded dirty-path hints

`WatcherHintAccumulator` retains the distinct paths recorded since the last
drain while they fit its limits.  An event that does not fit, an unsupported
event or a saturated counter records a cause, and the batch drained next asks
for a complete reconciliation instead of naming paths.
-/

def MAX_WATCHER_HINT_PATHS : UInt32 := 65536

def MAX_WATCHER_HINT_PATH_BYTES : UInt64 := 64 * 1024 * 1024

def DEFAULT_WATCHER_HINT_PATHS : UInt32 := 4096

def DEFAULT_WATCHER_HINT_PATH_BYTES : UInt64 := 4 * 1024 * 1024

/-- Strict bounds for one in-memory dirty-path accumulator. -/
structure WatcherHintLimits where
  maxPaths : UInt32
  maxPathBytes : UInt64
  maxPathsValid : maxPaths ≠ 0 ∧ maxPaths ≤ MAX_WATCHER_HINT_PATHS
  maxPathBytesValid : maxPathBytes ≠ 0 ∧ maxPathBytes ≤ MAX_WATCHER_HINT_PATH_BYTES

namespace WatcherHintLimits

/-- Conservative default limits. -/
def default : WatcherHintLimits where
  maxPaths := DEFAULT_WATCHER_HINT_PATHS
  maxPathBytes := DEFAULT_WATCHER_HINT_PATH_BYTES
  maxPathsValid := by decide
  maxPathBytesValid := by decide

end WatcherHintLimits

def PATH_COUNT_OVERFLOW : UInt8 := 1

def PATH_BYTE_OVERFLOW : UInt8 := (1 : UInt8) <<< 1

def UNSUPPORTED_EVENT : UInt8 := (1 : UInt8) <<< 2

def COUNTER_OVERFLOW : UInt8 := (1 : UInt8) <<< 3

/-- The bits of what made a complete reconciliation mandatory. -/
structure WatcherFullReconciliationCauses where
  bits : UInt8
  deriving DecidableEq

namespace WatcherFullReconciliationCauses

def empty : WatcherFullReconciliationCauses := ⟨0⟩

def isEmpty (causes : WatcherFullReconciliationCauses) : Bool := causes.bits == 0

def insert (causes : WatcherFullReconciliationCauses)
    (cause : UInt8) : WatcherFullReconciliationCauses := ⟨causes.bits ||| cause⟩

theorem isEmpty_insert {cause : UInt8} (nonzero : cause ≠ 0)
    (causes : WatcherFullReconciliationCauses) :
    (causes.insert cause).isEmpty = false := by
  simp [insert, isEmpty, nonzero]

end WatcherFullReconciliationCauses

/-- Cumulative accumulator counters. -/
structure WatcherHintCounters where
  observedEvents : UInt64
  duplicateHints : UInt64
  coalescedHints : UInt64
  overflowEvents : UInt64
  unsupportedEvents : UInt64
  deriving DecidableEq

inductive WatcherHintAdmission where
  | retained
  | duplicate
  | pathCountOverflow
  | pathByteOverflow
  | unsupportedEvent
  | counterOverflow
  | fullReconciliationAlreadyRequired
  deriving DecidableEq

/-- One drained canonical dirty set or a complete-reconciliation marker. -/
structure WatcherHintBatch where
  paths : List RepositoryPath
  fullReconciliationRequired : Bool
  causes : WatcherFullReconciliationCauses

/-- Bounded canonical dirty-path accumulation for one source slot. -/
structure WatcherHintAccumulator where
  limits : WatcherHintLimits
  paths : TreeSet RepositoryPath
  retainedPathCount : UInt32
  retainedPathBytes : UInt64
  causes : WatcherFullReconciliationCauses
  counters : WatcherHintCounters

namespace WatcherHintAccumulator

def new (limits : WatcherHintLimits) : WatcherHintAccumulator where
  limits := limits
  paths := ∅
  retainedPathCount := 0
  retainedPathBytes := 0
  causes := .empty
  counters := ⟨0, 0, 0, 0, 0⟩

/-- Record a cause and discard what is retained. -/
def requireFull (cause : UInt8) (hints : WatcherHintAccumulator) : WatcherHintAccumulator :=
  { hints with
    causes := hints.causes.insert cause
    paths := ∅
    retainedPathCount := 0
    retainedPathBytes := 0 }

def counterOverflow (hints : WatcherHintAccumulator) :
    WatcherHintAccumulator × WatcherHintAdmission :=
  (hints.requireFull COUNTER_OVERFLOW, .counterOverflow)

def overflow (cause : UInt8) (admission : WatcherHintAdmission) (hints : WatcherHintAccumulator) :
    WatcherHintAccumulator × WatcherHintAdmission :=
  match increment hints.counters.overflowEvents with
  | (advanced, overflowEvents) =>
    let counted :=
      { hints.requireFull cause with
        counters := { hints.counters with overflowEvents := overflowEvents } }
    if advanced then
      (counted, admission)
    else
      (counted.requireFull COUNTER_OVERFLOW, .counterOverflow)

def retainNewPath (path : RepositoryPath) (hints : WatcherHintAccumulator) :
    WatcherHintAccumulator × WatcherHintAdmission :=
  -- `checked_add` on the count, then on the bytes, each before its limit.
  if 2 ^ 32 ≤ hints.retainedPathCount.toNat + 1 then
    hints.overflow PATH_COUNT_OVERFLOW .pathCountOverflow
  else if hints.limits.maxPaths < hints.retainedPathCount + 1 then
    hints.overflow PATH_COUNT_OVERFLOW .pathCountOverflow
  else if 2 ^ 64 ≤ hints.retainedPathBytes.toNat + path.bytes.length then
    hints.overflow PATH_BYTE_OVERFLOW .pathByteOverflow
  else if hints.limits.maxPathBytes < hints.retainedPathBytes + .ofNat path.bytes.length then
    hints.overflow PATH_BYTE_OVERFLOW .pathByteOverflow
  else
    ({ hints with
        retainedPathCount := hints.retainedPathCount + 1
        retainedPathBytes := hints.retainedPathBytes + .ofNat path.bytes.length
        paths := hints.paths.insert path },
      .retained)

def recordHint (path : RepositoryPath) (hints : WatcherHintAccumulator) :
    WatcherHintAccumulator × WatcherHintAdmission :=
  match increment hints.counters.observedEvents with
  | (observed, observedEvents) =>
    let counted :=
      { hints with
        counters := { hints.counters with observedEvents := observedEvents } }
    if !observed then
      counted.counterOverflow
    else if !counted.causes.isEmpty then
      match increment counted.counters.coalescedHints with
      | (advanced, coalescedHints) =>
        let coalesced :=
          { counted with
            counters :=
              { counted.counters with
                coalescedHints := coalescedHints } }
        if advanced then
          (coalesced, .fullReconciliationAlreadyRequired)
        else
          coalesced.counterOverflow
    else if counted.paths.contains path then
      match increment counted.counters.duplicateHints with
      | (advanced, duplicateHints) =>
        let duplicated :=
          { counted with
            counters :=
              { counted.counters with
                duplicateHints := duplicateHints } }
        if advanced then
          (duplicated, .duplicate)
        else
          duplicated.counterOverflow
    else
      counted.retainNewPath path

/-- Record a backend event that cannot be represented as path hints. -/
def recordUnsupportedEvent (hints : WatcherHintAccumulator) :
    WatcherHintAccumulator × WatcherHintAdmission :=
  match increment hints.counters.observedEvents with
  | (observed, observedEvents) =>
    let counted :=
      { hints with
        counters := { hints.counters with observedEvents := observedEvents } }
    if !observed then
      counted.counterOverflow
    else
      match increment counted.counters.unsupportedEvents with
      | (advanced, unsupportedEvents) =>
        let unsupported :=
          { counted with
            counters :=
              { counted.counters with
                unsupportedEvents := unsupportedEvents } }
        if advanced then
          (unsupported.requireFull UNSUPPORTED_EVENT, .unsupportedEvent)
        else
          unsupported.counterOverflow

/-- Drain one canonical batch and reset only pending hints and causes. -/
def drain (hints : WatcherHintAccumulator) : WatcherHintAccumulator × WatcherHintBatch :=
  ({ hints with
      paths := ∅
      retainedPathCount := 0
      retainedPathBytes := 0
      causes := .empty },
    { paths := if hints.causes.isEmpty then hints.paths.toList else []
      fullReconciliationRequired := !hints.causes.isEmpty
      causes := hints.causes })

/-! ## What the accumulator keeps -/

/-- The aggregate bytes of the retained paths. -/
def pathBytes (paths : TreeSet RepositoryPath) : Nat := (paths.toList.map (·.bytes.length)).sum

/-- The totals are those of the retained set, within the limits. -/
structure Accounted (hints : WatcherHintAccumulator) : Prop where
  count : hints.retainedPathCount.toNat = hints.paths.size
  bytes : hints.retainedPathBytes.toNat = pathBytes hints.paths
  countBounded : hints.retainedPathCount.toNat ≤ hints.limits.maxPaths.toNat
  bytesBounded : hints.retainedPathBytes.toNat ≤ hints.limits.maxPathBytes.toNat

/--
Either a complete reconciliation is required and nothing is retained, or the
retained paths are the recorded ones.
-/
def Represents (recorded : List RepositoryPath) (hints : WatcherHintAccumulator) : Prop :=
  (hints.causes.isEmpty = false ∧ hints.paths.isEmpty = true) ∨
    (hints.causes.isEmpty = true ∧ ∀ path, path ∈ hints.paths ↔ path ∈ recorded)

theorem nodup_toList (paths : TreeSet RepositoryPath) : paths.toList.Nodup := by
  refine paths.distinct_toList.imp fun distinct same => ?_
  subst same
  exact distinct ReflCmp.compare_self

theorem pathBytes_insert {paths : TreeSet RepositoryPath} {path : RepositoryPath}
    (fresh : path ∉ paths) :
    pathBytes (paths.insert path) = pathBytes paths + path.bytes.length := by
  have shuffled : (paths.insert path).toList.Perm (path :: paths.toList) := by
    rw [List.perm_ext_iff_of_nodup (nodup_toList _)
      (List.nodup_cons.mpr ⟨by simpa using fresh, nodup_toList _⟩)]
    intro other
    rw [TreeSet.mem_toList, TreeSet.mem_insert,
      LawfulEqOrd.compare_eq_iff_eq, List.mem_cons, TreeSet.mem_toList,
      eq_comm]
  rw [pathBytes, (shuffled.map _).sum_nat, List.map_cons, List.sum_cons, Nat.add_comm]
  rfl

variable {hints : WatcherHintAccumulator} {recorded : List RepositoryPath}

/-- What the accumulator promises of the paths recorded since the last drain. -/
structure Keeps (limits : WatcherHintLimits) (recorded : List RepositoryPath)
    (hints : WatcherHintAccumulator) : Prop where
  limits : hints.limits = limits
  accounted : hints.Accounted
  represents : Represents recorded hints

variable {limits : WatcherHintLimits}

theorem accounted_of_empty
    (emptied : hints.paths = ∅ ∧ hints.retainedPathCount = 0 ∧ hints.retainedPathBytes = 0) :
    hints.Accounted := by
  obtain ⟨paths, count, bytes⟩ := emptied
  refine ⟨?_, ?_, ?_, ?_⟩
  · rw [count, paths]
    rfl
  · rw [bytes, paths]
    rfl
  · rw [count]
    exact Nat.zero_le _
  · rw [bytes]
    exact Nat.zero_le _

theorem new_keeps (limits : WatcherHintLimits) : (new limits).Keeps limits [] :=
  ⟨rfl, accounted_of_empty ⟨rfl, rfl, rfl⟩,
    .inr ⟨rfl, fun _ => iff_of_false TreeSet.not_mem_emptyc nofun⟩⟩

theorem requireFull_keeps {cause : UInt8} (limited : hints.limits = limits) (nonzero : cause ≠ 0)
    (recorded : List RepositoryPath) :
    (hints.requireFull cause).Keeps limits recorded :=
  ⟨limited, accounted_of_empty ⟨rfl, rfl, rfl⟩, .inl ⟨hints.causes.isEmpty_insert nonzero, rfl⟩⟩

theorem counterOverflow_keeps (limited : hints.limits = limits) (recorded : List RepositoryPath) :
    hints.counterOverflow.1.Keeps limits recorded :=
  @requireFull_keeps hints limits COUNTER_OVERFLOW limited (by decide) recorded

theorem overflow_keeps {cause : UInt8} {admission : WatcherHintAdmission}
    (limited : hints.limits = limits) (nonzero : cause ≠ 0) (recorded : List RepositoryPath) :
    (hints.overflow cause admission).1.Keeps limits recorded := by
  rw [overflow]
  dsimp only
  split
  · obtain ⟨-, accounted, represents⟩ :=
      @requireFull_keeps hints limits cause limited nonzero recorded
    exact ⟨limited, ⟨accounted.1, accounted.2, accounted.3, accounted.4⟩, represents⟩
  · apply counterOverflow_keeps
    exact limited

section Keeps

variable (keeps : hints.Keeps limits recorded)

include keeps

/-- Counting an event changes nothing that the accumulator keeps. -/
theorem Keeps.counted (counters : WatcherHintCounters) :
    Keeps limits recorded { hints with counters := counters } :=
  ⟨keeps.limits,
    ⟨keeps.accounted.1, keeps.accounted.2, keeps.accounted.3, keeps.accounted.4⟩,
    keeps.represents⟩

variable {path : RepositoryPath}

/-- A path that adds nothing: it is retained, or nothing is. -/
theorem Keeps.again (covered : hints.causes.isEmpty = false ∨ path ∈ hints.paths) :
    hints.Keeps limits (recorded ++ [path]) := by
  refine ⟨keeps.limits, keeps.accounted, ?_⟩
  rcases keeps.represents with full | ⟨noCause, exact⟩
  · exact .inl full
  · refine .inr ⟨noCause, fun other => ?_⟩
    rw [List.mem_append, List.mem_singleton, ← exact]
    constructor
    · exact .inl
    · rintro (retained | rfl)
      · exact retained
      · rcases covered with caused | retained
        · rw [noCause] at caused
          cases caused
        · exact retained

theorem retainNewPath_keeps (noCause : hints.causes.isEmpty = true) (fresh : path ∉ hints.paths) :
    (hints.retainNewPath path).1.Keeps limits (recorded ++ [path]) := by
  have limited := keeps.limits
  rw [retainNewPath]
  split
  next => exact overflow_keeps limited (by decide) _
  next countRoom =>
  split
  next => exact overflow_keeps limited (by decide) _
  next countFits =>
  split
  next => exact overflow_keeps limited (by decide) _
  next bytesRoom =>
  split
  next => exact overflow_keeps limited (by decide) _
  next bytesFit =>
  have nextCount : (hints.retainedPathCount + 1).toNat = hints.retainedPathCount.toNat + 1 := by
    rw [UInt32.toNat_add]
    exact Nat.mod_eq_of_lt (Nat.not_le.mp countRoom)
  have length : (UInt64.ofNat path.bytes.length).toNat = path.bytes.length :=
    UInt64.toNat_ofNat_of_lt' (Nat.lt_trans path.addressable (by decide))
  have nextBytes : (hints.retainedPathBytes + .ofNat path.bytes.length).toNat =
        hints.retainedPathBytes.toNat + path.bytes.length := by
    rw [UInt64.toNat_add, length]
    exact Nat.mod_eq_of_lt (Nat.not_le.mp bytesRoom)
  obtain ⟨-, ⟨count, bytes, -, -⟩, represents⟩ := keeps
  refine ⟨limited, ⟨?_, ?_, ?_, ?_⟩, .inr ⟨noCause, fun other => ?_⟩⟩
  · rw [nextCount, count, TreeSet.size_insert,
      if_neg (by rw [TreeSet.contains_iff_mem]; exact fresh)]
  · rw [nextBytes, bytes, pathBytes_insert fresh]
  · exact UInt32.le_iff_toNat_le.mp (UInt32.not_lt.mp countFits)
  · exact UInt64.le_iff_toNat_le.mp (UInt64.not_lt.mp bytesFit)
  · rcases represents with ⟨caused, -⟩ | ⟨-, exact⟩
    · rw [noCause] at caused
      cases caused
    · rw [TreeSet.mem_insert, LawfulEqOrd.compare_eq_iff_eq, exact,
        List.mem_append, List.mem_singleton, or_comm, eq_comm]

theorem recordHint_keeps : (hints.recordHint path).1.Keeps limits (recorded ++ [path]) := by
  rw [recordHint]
  dsimp only
  split
  next =>
    apply counterOverflow_keeps
    exact keeps.limits
  next =>
  split
  next caused =>
    split
    · refine (Keeps.again keeps (.inl ?_)).counted _
      simpa using caused
    · apply counterOverflow_keeps
      exact keeps.limits
  next noCause =>
  split
  next retained =>
    split
    · exact (Keeps.again keeps (.inr (TreeSet.contains_iff_mem.mp retained))).counted _
    · apply counterOverflow_keeps
      exact keeps.limits
  next fresh =>
    refine retainNewPath_keeps (keeps.counted _) ?_ ?_
    · simpa using noCause
    · rw [← TreeSet.contains_iff_mem]
      exact fresh

theorem recordUnsupportedEvent_keeps :
    hints.recordUnsupportedEvent.1.Keeps limits recorded := by
  rw [recordUnsupportedEvent]
  dsimp only
  split
  · apply counterOverflow_keeps
    exact keeps.limits
  · split
    · apply requireFull_keeps
      · exact keeps.limits
      · decide
    · apply counterOverflow_keeps
      exact keeps.limits

theorem drain_keeps : hints.drain.1.Keeps limits [] :=
  ⟨keeps.limits, accounted_of_empty ⟨rfl, rfl, rfl⟩,
    .inr ⟨rfl, fun _ => iff_of_false TreeSet.not_mem_emptyc nofun⟩⟩

end Keeps

end WatcherHintAccumulator

/--
The batch asks for a complete reconciliation and says why, or it holds exactly
the recorded paths in strictly increasing byte order.
-/
def WatcherHintBatch.Describes (recorded : List RepositoryPath) (batch : WatcherHintBatch) : Prop :=
  (batch.fullReconciliationRequired = true ∧
      batch.causes.isEmpty = false ∧ batch.paths = []) ∨
    (batch.fullReconciliationRequired = false ∧
      (∀ path, path ∈ batch.paths ↔ path ∈ recorded) ∧
      batch.paths.Pairwise fun first second => compare first.bytes second.bytes = .lt)

open WatcherHintAccumulator

theorem WatcherHintAccumulator.Keeps.drained {limits : WatcherHintLimits}
    {recorded : List RepositoryPath} {hints : WatcherHintAccumulator}
    (keeps : hints.Keeps limits recorded) :
    hints.drain.2.Describes recorded := by
  rcases keeps.represents with ⟨caused, -⟩ | ⟨noCause, exact⟩
  · refine .inl ⟨?_, caused, ?_⟩
    · simp [drain, caused]
    · simp [drain, caused]
  · refine .inr ⟨?_, ?_, ?_⟩
    · simp [drain, noCause]
    · simp [drain, noCause, exact]
    · simp only [drain, noCause, if_true]
      exact hints.paths.ordered_toList

/-! ## Histories of events and drains -/

inductive WatcherHintEvent where
  | hinted (path : RepositoryPath) (admission : WatcherHintAdmission)
  | unsupported (admission : WatcherHintAdmission)
  | drained (batch : WatcherHintBatch)

/-- One call and what it returned. -/
inductive WatcherHintStep : WatcherHintAccumulator → WatcherHintEvent →
      WatcherHintAccumulator → Prop where
  | recordHint (hints : WatcherHintAccumulator) (path : RepositoryPath) :
      WatcherHintStep hints (.hinted path (hints.recordHint path).2) (hints.recordHint path).1
  | recordUnsupportedEvent (hints : WatcherHintAccumulator) :
      WatcherHintStep hints (.unsupported hints.recordUnsupportedEvent.2)
        hints.recordUnsupportedEvent.1
  | drain (hints : WatcherHintAccumulator) :
      WatcherHintStep hints (.drained hints.drain.2) hints.drain.1

/-- The paths recorded since the last drain. -/
def WatcherHintEvent.recorded (recorded : List RepositoryPath) :
    WatcherHintEvent → List RepositoryPath
  | .hinted path _ => recorded ++ [path]
  | .unsupported _ => recorded
  | .drained _ => []

def recordedSinceDrain (events : List WatcherHintEvent) : List RepositoryPath :=
  events.foldl WatcherHintEvent.recorded []

variable {limits : WatcherHintLimits} {before after final : WatcherHintAccumulator}
  {event : WatcherHintEvent} {events : List WatcherHintEvent}

theorem keeps_of_step {recorded : List RepositoryPath} (step : WatcherHintStep before event after)
    (keeps : before.Keeps limits recorded) :
    after.Keeps limits (event.recorded recorded) := by
  cases step with
  | recordHint => exact recordHint_keeps keeps
  | recordUnsupportedEvent => exact recordUnsupportedEvent_keeps keeps
  | drain => exact drain_keeps keeps

theorem keeps_of_later {recorded : List RepositoryPath}
    (run : Run WatcherHintStep before events final) (keeps : before.Keeps limits recorded) :
    final.Keeps limits (events.foldl WatcherHintEvent.recorded recorded) := by
  induction run generalizing recorded with
  | done state => exact keeps
  | more first later hypothesis => exact hypothesis (keeps_of_step first keeps)

theorem keeps_of_run (run : Run WatcherHintStep (new limits) events final) :
    final.Keeps limits (recordedSinceDrain events) := keeps_of_later run (new_keeps limits)

/--
After every history the totals are those of the retained paths and within the
limits, and a recorded path is retained unless the next batch requires complete
reconciliation; every drained batch describes the paths recorded for it.
-/
theorem watcherHints_of_run (run : Run WatcherHintStep (new limits) events final) :
    final.limits = limits ∧
      final.Accounted ∧
      (∀ path ∈ recordedSinceDrain events,
        path ∈ final.paths ∨ final.drain.2.fullReconciliationRequired = true) ∧
      ∀ earlier batch later, events = earlier ++ .drained batch :: later →
          batch.Describes (recordedSinceDrain earlier) ∧
            ∀ path ∈ recordedSinceDrain earlier,
              path ∈ batch.paths ∨ batch.fullReconciliationRequired = true := by
  have keeps := keeps_of_run run
  refine ⟨keeps.limits, keeps.accounted, ?_, ?_⟩
  · intro path present
    rcases keeps.represents with ⟨caused, -⟩ | ⟨-, exact⟩
    · exact .inr (by simp [drain, caused])
    · exact .inl ((exact path).mpr present)
  · rintro earlier batch later rfl
    obtain ⟨middle, front, back⟩ := run.split
    have described : batch.Describes (recordedSinceDrain earlier) := by
      cases back with
      | more first _ =>
        cases first
        exact (keeps_of_run front).drained
    refine ⟨described, fun path present => ?_⟩
    rcases described with ⟨full, -⟩ | ⟨-, exact, -⟩
    · exact .inr full
    · exact .inl ((exact path).mpr present)

def sampleHintPath : RepositoryPath where
  bytes := [115, 114, 99]
  accepted := ⟨⟨16, 4⟩, ⟨3, 1⟩, by decide⟩
  addressable := by decide

/-- A path hinted twice is drained once. -/
theorem watcherHints_of_duplicate : (WatcherHintBatch.mk [sampleHintPath] false .empty).Describes
      [sampleHintPath, sampleHintPath] := by
  have run : Run WatcherHintStep (new .default)
        [.hinted sampleHintPath .retained,
          .hinted sampleHintPath .duplicate,
          .drained ⟨[sampleHintPath], false, .empty⟩]
        ((((new .default).recordHint sampleHintPath).1.recordHint sampleHintPath).1.drain).1 :=
    .more (.recordHint _ _) (.more (.recordHint _ _) (.more (.drain _) (.done _)))
  exact ((watcherHints_of_run run).2.2.2
      [.hinted sampleHintPath .retained, .hinted sampleHintPath .duplicate] _ [] rfl).1

end RepoWitness
