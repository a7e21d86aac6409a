import RepoWitness.TransitionRun
import Mathlib.Data.List.DropRight

namespace RepoWitness

/-!
# The bounded line reader

`BoundedLineReader` stands between the byte stream of the MCP transport and the
line buffer of the SDK.  Every read of the inner reader is capped at what is
left of the line plus one byte, and a poll whose bytes outgrow the line drops
them and fails.

The counter is a `usize` and wraps, so the limit `usize::MAX` bounds nothing.
Below it, a capped chunk that outgrows its line holds no newline: the bytes a
failing poll drops all belong to the line that is too long.
-/

/-- The result of one poll. -/
inductive ReadPoll (Value : Type) where
  | pending
  | ready (value : Value)

/-- An `io::Error`: invalid data with its message, or the inner reader's own error. -/
inductive ReadError (Error : Type) where
  | invalidData (message : String)
  | inner (error : Error)

/-- What a poll answers, with the bytes it puts into the output. -/
abbrev ReadOutcome (Error : Type) :=
  ReadPoll (Except (ReadError Error) (List UInt8))

def lineTooLarge {Error : Type} : ReadError Error :=
  .invalidData "MCP input line exceeds byte limit"

/-- Shown as `MCP input-line byte limit must be positive`. -/
inductive BoundedLineReaderLimitError where
  | mustBePositive

structure BoundedLineReader where
  inner : List UInt8
  maxLineBytes : UInt64
  currentLineBytes : UInt64
  failed : Bool

namespace BoundedLineReader

def newline : UInt8 := 10

def readChunkBytes : Nat := 8 * 1024

def tryNew (inner : List UInt8) (maxLineBytes : UInt64) :
    Except BoundedLineReaderLimitError BoundedLineReader :=
  if maxLineBytes = 0 then
    .error .mustBePositive
  else
    .ok ⟨inner, maxLineBytes, 0, false⟩

/-- `saturating_add(1)`. -/
def saturatingSucc (value : UInt64) : Nat := min (value.toNat + 1) (2 ^ 64 - 1)

/-- The loop over the bytes of one read: the counter after it, and whether it overran. -/
def scan (maxLineBytes : UInt64) : UInt64 → List UInt8 → UInt64 × Bool
  | current, [] => (current, false)
  | current, byte :: rest =>
    if byte = newline then
      scan maxLineBytes 0 rest
    else if maxLineBytes < current + 1 then
      (current + 1, true)
    else
      scan maxLineBytes (current + 1) rest

section Polls

variable {Error : Type}

/--
One poll with room for `remaining` bytes.  The answer is what the inner reader
does with its poll, should it come to that: how many bytes it is ready to give,
of which the capped buffer and the end of the stream may leave fewer.
-/
def pollRead (reader : BoundedLineReader) (answer : ReadPoll (Except Error Nat))
    (remaining : Nat) :
    ReadOutcome Error × BoundedLineReader :=
  if reader.failed then
    (.ready (.error lineTooLarge), reader)
  else if remaining = 0 then
    (.ready (.ok []), reader)
  else
    let remainingLine := reader.maxLineBytes - reader.currentLineBytes
    let readBytes := min (min remaining (saturatingSucc remainingLine)) readChunkBytes
    match answer with
    | .pending => (.pending, reader)
    | .ready (.error error) => (.ready (.error (.inner error)), reader)
    | .ready (.ok count) =>
      let bytes := reader.inner.take (min count readBytes)
      let scanned := scan reader.maxLineBytes reader.currentLineBytes bytes
      let read :=
        { reader with
          inner := reader.inner.drop (min count readBytes)
          currentLineBytes := scanned.1 }
      if scanned.2 then
        (.ready (.error lineTooLarge), { read with failed := true })
      else
        (.ready (.ok bytes), read)

/-- A poll with some buffer, whatever the inner reader answers. -/
def PollStep (before : BoundedLineReader)
    (outcome : ReadOutcome Error) (after : BoundedLineReader) :
    Prop :=
  ∃ answer remaining, pollRead before answer remaining = (outcome, after)

/-- The bytes one poll puts into its buffer. -/
def putBytes : ReadOutcome Error → List UInt8
  | .ready (.ok bytes) => bytes
  | _ => []

/-- The bytes since the last newline. -/
def lastLine (bytes : List UInt8) : List UInt8 :=
  bytes.rtakeWhile (· != newline)

/-- Some line of the bytes, be it still open, is longer than the limit. -/
def Oversize (limit : Nat) (bytes : List UInt8) : Prop :=
  ∃ part, part <+: bytes ∧ limit < (lastLine part).length

/-- What the reader promises of the polls made of it so far. -/
structure BoundedDelivery (limit : UInt64) (input : List UInt8)
    (outcomes : List (ReadOutcome Error))
    (final : BoundedLineReader) : Prop where
  inOrder : outcomes.flatMap putBytes <+: input
  lineBounded : ¬ Oversize limit.toNat (outcomes.flatMap putBytes)
  failsExactly : ∀ earlier outcome consumed,
      outcomes = earlier ++ [outcome] → consumed ++ final.inner = input →
        (outcome = .ready (.error lineTooLarge) ↔ Oversize limit.toNat consumed)
  staysFailed : ∀ earlier later,
      outcomes = earlier ++ .ready (.error lineTooLarge) :: later →
        ∀ outcome ∈ later, outcome = .ready (.error lineTooLarge)
  linesDelivered : .ready (.error lineTooLarge) ∈ outcomes →
      ∀ lines, lines <+: input → lastLine lines = [] → ¬ Oversize limit.toNat lines →
        lines <+: outcomes.flatMap putBytes

/-! ## Lines -/

theorem lastLine_concat (bytes : List UInt8) (byte : UInt8) :
    lastLine (bytes ++ [byte]) = if byte = newline then [] else lastLine bytes ++ [byte] := by
  by_cases closed : byte = newline
  · rw [if_pos closed]
    exact List.rtakeWhile_concat_neg _ _ _ (by simp [closed])
  · rw [if_neg closed]
    exact List.rtakeWhile_concat_pos _ _ _ (by simp [closed])

variable {chunk rest : List UInt8}

theorem lastLine_append_of_not_mem (seen : List UInt8) (free : newline ∉ chunk) :
    lastLine (seen ++ chunk) = lastLine seen ++ chunk := by
  induction chunk using List.reverseRecOn with
  | nil => simp
  | append_singleton chunk byte hypothesis =>
    rw [List.mem_append, List.mem_singleton, not_or] at free
    rw [← List.append_assoc, lastLine_concat, if_neg (Ne.symm free.2),
      hypothesis free.1, List.append_assoc]

theorem lastLine_append_of_mem (seen : List UInt8) (found : newline ∈ chunk) :
    (lastLine (seen ++ chunk)).length < chunk.length := by
  induction chunk using List.reverseRecOn with
  | nil => cases found
  | append_singleton chunk byte hypothesis =>
    rw [← List.append_assoc, lastLine_concat]
    by_cases closed : byte = newline
    · simp [closed]
    · have shorter := hypothesis (by simpa [Ne.symm closed] using found)
      simpa [closed] using shorter

theorem capped_overrun {limit : Nat} {seen part : List UInt8}
    (within : (lastLine seen).length ≤ limit)
    (capped : chunk.length ≤ limit - (lastLine seen).length + 1) (front : part <+: chunk)
    (overrun : limit < (lastLine (seen ++ part)).length) :
    part = chunk ∧ newline ∉ chunk := by
  have shorter := front.length_le
  by_cases found : newline ∈ part
  · have := lastLine_append_of_mem seen found
    omega
  · rw [lastLine_append_of_not_mem seen found, List.length_append] at overrun
    have whole := front.eq_of_length_le (by omega)
    exact ⟨whole, whole ▸ found⟩

theorem exists_prefix_cons {holds : List UInt8 → Prop} {byte : UInt8} (not_now : ¬ holds []) :
    (∃ part, part <+: byte :: rest ∧ holds part) ↔
      ∃ part, part <+: rest ∧ holds (byte :: part) := by
  constructor
  · rintro ⟨part, front, held⟩
    rcases List.prefix_cons_iff.mp front with rfl | ⟨onward, rfl, further⟩
    · exact absurd held not_now
    · exact ⟨onward, further, held⟩
  · rintro ⟨part, front, held⟩
    exact ⟨byte :: part, List.cons_prefix_cons.mpr ⟨rfl, front⟩, held⟩

/-- Below the largest `usize`, the loop counts the open line and finds its overrun. -/
theorem scan_spec {limit : UInt64} (chunk : List UInt8) (current : UInt64) (seen : List UInt8)
    (representable : limit.toNat < 2 ^ 64 - 1) (counted : current.toNat = (lastLine seen).length)
    (within : (lastLine seen).length ≤ limit.toNat) :
    ((scan limit current chunk).2 = true ↔
        ∃ part, part <+: chunk ∧ limit.toNat < (lastLine (seen ++ part)).length) ∧
      ((scan limit current chunk).2 = false →
        (scan limit current chunk).1.toNat = (lastLine (seen ++ chunk)).length) := by
  induction chunk generalizing current seen with
  | nil => simp [scan, counted, within]
  | cons byte rest hypothesis =>
    rw [exists_prefix_cons (by simpa using within), scan]
    by_cases closed : byte = newline
    · rw [if_pos closed]
      simpa only [List.append_assoc, List.singleton_append] using
        hypothesis 0 (seen ++ [byte]) (by simp [lastLine_concat, closed])
          (by simp [lastLine_concat, closed])
    · have next : (current + 1).toNat = (lastLine (seen ++ [byte])).length := by
        rw [lastLine_concat, if_neg closed, UInt64.toNat_add, List.length_append, counted]
        exact Nat.mod_eq_of_lt (by simp; omega)
      rw [if_neg closed]
      by_cases overrun : limit < current + 1
      · simp only [if_pos overrun, Bool.true_eq_false, false_implies, true_iff, and_true]
        exact ⟨[], List.nil_prefix, next ▸ UInt64.lt_iff_toNat_lt.mp overrun⟩
      · rw [if_neg overrun]
        simpa only [List.append_assoc, List.singleton_append] using
          hypothesis _ _ next
            (next ▸ Nat.le_of_not_lt fun longer => overrun (UInt64.lt_iff_toNat_lt.mpr longer))

/-! ## Polls -/

/-- Where the input is after some polls: delivered, dropped by a failing poll, or still to come. -/
structure Served (limit : UInt64) (input delivered : List UInt8) (reader : BoundedLineReader) :
    Prop where
  limitKept : reader.maxLineBytes = limit
  within : ¬ Oversize limit.toNat delivered
  running : reader.failed = false →
      reader.currentLineBytes.toNat = (lastLine delivered).length ∧
        delivered ++ reader.inner = input
  dropped : reader.failed = true →
      ∃ chunk, newline ∉ chunk ∧ limit.toNat < (lastLine (delivered ++ chunk)).length ∧
        delivered ++ chunk ++ reader.inner = input

variable {limit : UInt64} {input delivered : List UInt8} {reader after : BoundedLineReader}
  {outcome : ReadOutcome Error}
  {outcomes : List (ReadOutcome Error)}

theorem Served.lastLine_le (served : Served limit input delivered reader) :
    (lastLine delivered).length ≤ limit.toNat := by
  by_contra longer
  exact served.within ⟨delivered, List.prefix_rfl, by omega⟩

theorem step_of_failed (failed : reader.failed = true) (step : PollStep reader outcome after) :
    outcome = .ready (.error lineTooLarge) ∧ after = reader := by
  obtain ⟨answer, remaining, polled⟩ := step
  rw [pollRead, if_pos failed, Prod.mk.injEq] at polled
  exact ⟨polled.1.symm, polled.2.symm⟩

theorem run_of_failed (run : Run PollStep reader outcomes after) (failed : reader.failed = true) :
    (∀ outcome ∈ outcomes, outcome = .ready (.error lineTooLarge)) ∧ after = reader := by
  induction run with
  | done state => simp
  | more first later hypothesis =>
    obtain ⟨isError, rfl⟩ := step_of_failed failed first
    obtain ⟨errors, same⟩ := hypothesis failed
    exact ⟨List.forall_mem_cons.mpr ⟨isError, errors⟩, same⟩

/-- One read within the cap: an overrun drops the chunk, and otherwise it is delivered. -/
theorem served_read (representable : limit.toNat < 2 ^ 64 - 1)
    (served : Served limit input delivered reader) (running : reader.failed = false)
    (shape : reader.inner = chunk ++ rest)
    (capped : chunk.length ≤ limit.toNat - (lastLine delivered).length + 1) :
    ((scan limit reader.currentLineBytes chunk).2 = true →
        Served limit input delivered
          ⟨rest, limit, (scan limit reader.currentLineBytes chunk).1, true⟩) ∧
      ((scan limit reader.currentLineBytes chunk).2 = false →
        Served limit input (delivered ++ chunk)
          ⟨rest, limit, (scan limit reader.currentLineBytes chunk).1, false⟩) := by
  obtain ⟨counted, whole⟩ := served.running running
  obtain ⟨overruns, counts⟩ := scan_spec chunk _ _ representable counted served.lastLine_le
  have split : delivered ++ chunk ++ rest = input := by rw [List.append_assoc, ← shape, whole]
  constructor
  · intro overrun
    obtain ⟨part, front, longer⟩ := overruns.mp overrun
    obtain ⟨rfl, free⟩ := capped_overrun served.lastLine_le capped front longer
    exact ⟨rfl, served.within, by simp, fun _ => ⟨part, free, longer, split⟩⟩
  · intro fits
    refine ⟨rfl, ?_, fun _ => ⟨counts fits, split⟩, by simp⟩
    rintro ⟨part, front, longer⟩
    rcases List.prefix_or_prefix_of_prefix front (List.prefix_append delivered chunk) with
      early | ⟨onward, rfl⟩
    · exact served.within ⟨part, early, longer⟩
    · have overrun := overruns.mpr ⟨onward, (List.prefix_append_right_inj _).mp front, longer⟩
      rw [fits] at overrun
      cases overrun

theorem saturatingSucc_le {current : UInt64} (counted : current.toNat ≤ limit.toNat) :
    saturatingSucc (limit - current) ≤ limit.toNat - current.toNat + 1 := by
  rw [saturatingSucc, UInt64.toNat_sub_of_le _ _ (UInt64.le_iff_toNat_le.mpr counted)]
  exact Nat.min_le_left _ _

theorem served_step (representable : limit.toNat < 2 ^ 64 - 1)
    (served : Served limit input delivered reader) (step : PollStep reader outcome after) :
    Served limit input (delivered ++ putBytes outcome) after ∧
      (outcome = .ready (.error lineTooLarge) ↔ after.failed = true) := by
  by_cases failed : reader.failed = true
  · obtain ⟨rfl, rfl⟩ := step_of_failed failed step
    simpa [putBytes, failed] using served
  · obtain ⟨answer, remaining, polled⟩ := step
    have running := Bool.eq_false_of_not_eq_true failed
    have unchanged (quiet) (silent : putBytes quiet = [])
        (fine : quiet ≠ .ready (.error lineTooLarge)) (same : (quiet, reader) = (outcome, after)) :
        Served limit input (delivered ++ putBytes outcome) after ∧
          (outcome = .ready (.error lineTooLarge) ↔ after.failed = true) := by
      cases same
      rw [silent, List.append_nil]
      exact ⟨served, by simp [fine, failed]⟩
    rw [pollRead, if_neg failed, served.limitKept, running] at polled
    split at polled
    · exact unchanged _ rfl (by simp) polled
    · split at polled
      · exact unchanged _ rfl (by simp) polled
      · exact unchanged _ rfl (by simp [lineTooLarge]) polled
      · rename_i count
        obtain ⟨counted, -⟩ := served.running running
        have cap := saturatingSucc_le (counted ▸ served.lastLine_le)
        dsimp only at polled
        generalize amountIs : min count _ = amount at polled
        obtain ⟨overruns, fits⟩ :=
          served_read representable served running (List.take_append_drop amount reader.inner).symm
            (by rw [List.length_take, ← counted]; omega)
        split at polled
        · rename_i overrun
          cases polled
          simpa [putBytes] using overruns overrun
        · rename_i fine
          cases polled
          simpa [putBytes] using fits (Bool.eq_false_of_not_eq_true fine)

theorem served_run (representable : limit.toNat < 2 ^ 64 - 1)
    (run : Run PollStep reader outcomes after) (served : Served limit input delivered reader) :
    Served limit input (delivered ++ outcomes.flatMap putBytes) after := by
  induction run generalizing delivered with
  | done state => simpa using served
  | more first later hypothesis =>
    rw [List.flatMap_cons, ← List.append_assoc]
    exact hypothesis (served_step representable served first).1

/-- What was consumed holds a line beyond the limit exactly in a failed reader. -/
theorem Served.failed_iff (served : Served limit input delivered reader) {consumed : List UInt8}
    (split : consumed ++ reader.inner = input) :
    reader.failed = true ↔ Oversize limit.toNat consumed := by
  constructor
  · intro failed
    obtain ⟨chunk, -, longer, whole⟩ := served.dropped failed
    rw [← List.append_cancel_right (whole.trans split.symm)]
    exact ⟨_, List.prefix_rfl, longer⟩
  · intro oversize
    by_contra running
    obtain ⟨-, whole⟩ := served.running (Bool.eq_false_of_not_eq_true running)
    exact served.within (List.append_cancel_right (split.trans whole.symm) ▸ oversize)

/-- The bytes a failing poll drops reach into no line that is closed and short enough. -/
theorem Served.lines_delivered (served : Served limit input delivered reader)
    (failed : reader.failed = true) {lines : List UInt8} (front : lines <+: input)
    (closed : lastLine lines = []) (short : ¬ Oversize limit.toNat lines) :
    lines <+: delivered := by
  obtain ⟨chunk, free, longer, whole⟩ := served.dropped failed
  have onward : delivered ++ chunk <+: input := whole ▸ List.prefix_append _ _
  rcases List.prefix_or_prefix_of_prefix front onward with before | beyond
  · rcases List.prefix_or_prefix_of_prefix before (List.prefix_append _ _) with
      done | ⟨extra, rfl⟩
    · exact done
    · have part := (List.prefix_append_right_inj _).mp before
      rw [lastLine_append_of_not_mem _ fun found => free (part.subset found),
        List.append_eq_nil_iff] at closed
      simp [closed.2]
  · exact absurd ⟨_, beyond, longer⟩ short

theorem delivery_of_run (representable : limit.toNat < 2 ^ 64 - 1)
    (created : tryNew input limit = .ok reader) (run : Run PollStep reader outcomes after) :
    BoundedDelivery limit input outcomes after := by
  have initial : Served limit input [] reader := by
    rw [tryNew] at created
    split at created
    · cases created
    · cases created
      refine ⟨rfl, ?_, fun _ => ⟨rfl, rfl⟩, by simp⟩
      rintro ⟨part, front, longer⟩
      simp [List.prefix_nil.mp front, lastLine] at longer
  have served := served_run representable run initial
  rw [List.nil_append] at served
  have failing (earlier later)
      (shape : outcomes = earlier ++ .ready (.error lineTooLarge) :: later) :
      ∃ middle : BoundedLineReader, middle.failed = true ∧ Run PollStep middle later after := by
    obtain ⟨before, front, rest⟩ := Run.split (shape ▸ run)
    cases rest with
    | more first later =>
      have step := served_step representable (served_run representable front initial) first
      exact ⟨_, step.2.mp rfl, later⟩
  refine ⟨?_, served.within, ?_, ?_, ?_⟩
  · by_cases failed : after.failed = true
    · obtain ⟨chunk, -, -, whole⟩ := served.dropped failed
      rw [← whole, List.append_assoc]
      exact List.prefix_append _ _
    · rw [← (served.running (Bool.eq_false_of_not_eq_true failed)).2]
      exact List.prefix_append _ _
  · intro earlier outcome consumed shape split
    obtain ⟨before, front, rest⟩ := Run.split (shape ▸ run)
    cases rest with
    | more first later =>
      cases later
      have step := served_step representable (served_run representable front initial) first
      exact step.2.trans (served.failed_iff split)
  · intro earlier later shape
    obtain ⟨middle, failed, rest⟩ := failing earlier later shape
    exact (run_of_failed rest failed).1
  · intro occurred lines front closed short
    obtain ⟨earlier, later, shape⟩ := List.append_of_mem occurred
    obtain ⟨middle, failed, rest⟩ := failing earlier later shape
    have same := (run_of_failed rest failed).2
    exact served.lines_delivered (same ▸ failed) front closed short

/-! ## The largest limit -/

def usizeMax : UInt64 := .ofNat (2 ^ 64 - 1)

theorem not_usizeMax_lt (value : UInt64) : ¬ usizeMax < value := by
  have bound := value.toNat_lt
  rw [UInt64.lt_iff_toNat_lt, show usizeMax.toNat = 2 ^ 64 - 1 from rfl]
  omega

/-- Against the largest limit the counter wraps and every byte is delivered. -/
theorem run_of_usizeMax (count : Nat) (current : UInt64) : ∃ final,
      Run PollStep ⟨List.replicate count 97, usizeMax, current, false⟩
        (List.replicate count (.ready (.ok [97]) : ReadOutcome Error)) final := by
  induction count generalizing current with
  | zero => exact ⟨_, .done _⟩
  | succ count hypothesis =>
    obtain ⟨final, later⟩ := hypothesis (current + 1)
    refine ⟨final, .more ⟨.ready (.ok 1), 1, ?_⟩ later⟩
    have room : min 1 (min (saturatingSucc (usizeMax - current)) readChunkBytes) = 1 := by
      simp only [saturatingSucc, readChunkBytes]
      omega
    have scanned : scan usizeMax current [97] = (current + 1, false) := by
      rw [scan, if_neg (by decide), if_neg (not_usizeMax_lt _), scan]
    simp [pollRead, room, scanned, List.replicate_succ]

theorem lastLine_replicate (count : Nat) :
    lastLine (List.replicate count 97) = List.replicate count 97 := by
  have free : newline ∉ List.replicate count 97 := by simp [newline]
  simpa [lastLine] using lastLine_append_of_not_mem [] free

theorem broken_at_usizeMax :
    ∃ reader final : BoundedLineReader, ∃ outcomes : List (ReadOutcome Error),
      tryNew (List.replicate (2 ^ 64) 97) usizeMax = .ok reader ∧
        Run PollStep reader outcomes final ∧
        Oversize usizeMax.toNat (outcomes.flatMap putBytes) := by
  obtain ⟨final, run⟩ := run_of_usizeMax (2 ^ 64) 0
  refine ⟨_, final, _, rfl, run, _, List.prefix_rfl, ?_⟩
  rw [List.flatMap_replicate, putBytes, List.flatten_replicate_singleton, lastLine_replicate,
    List.length_replicate]
  exact Nat.lt_add_one _

/-- A line of `2 ^ 64` bytes passes the limit `usize::MAX`. -/
theorem oversize_line_passes_usizeMax :
    ∃ reader final : BoundedLineReader, ∃ outcomes : List (ReadOutcome Empty),
      tryNew (List.replicate (2 ^ 64) 97) usizeMax = .ok reader ∧
        Run PollStep reader outcomes final ∧
        ¬ BoundedDelivery usizeMax (List.replicate (2 ^ 64) 97) outcomes final := by
  obtain ⟨reader, final, outcomes, created, run, oversize⟩ := broken_at_usizeMax
  exact ⟨reader, final, outcomes, created, run, fun promised => promised.lineBounded oversize⟩

/-- Every limit but `usize::MAX` is kept by every run, and that one is not. -/
theorem bounded_delivery_iff (limit : UInt64) :
    (∀ input reader (outcomes : List (ReadOutcome Error)) final,
        tryNew input limit = .ok reader → Run PollStep reader outcomes final →
          BoundedDelivery limit input outcomes final) ↔
      limit < usizeMax := by
  constructor
  · intro kept
    by_contra notBelow
    have largest : limit = usizeMax := by
      exact UInt64.le_antisymm (UInt64.not_lt.mp (not_usizeMax_lt limit))
        (UInt64.not_lt.mp notBelow)
    obtain ⟨reader, final, outcomes, created, run, oversize⟩ := broken_at_usizeMax
    have promised := kept _ reader outcomes final (largest ▸ created) run
    exact promised.lineBounded (largest ▸ oversize)
  · intro below input reader outcomes final created run
    exact delivery_of_run (UInt64.lt_iff_toNat_lt.mp below) created run

end Polls

end BoundedLineReader

end RepoWitness
