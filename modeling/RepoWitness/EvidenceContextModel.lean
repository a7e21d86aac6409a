import RepoWitness.PolledComputation
import RepoWitness.SourceIdentity

namespace RepoWitness

open Std

/-!
# Evidence-balanced context admission

Every candidate is an item that keeps its attributions; the items are sorted
into one lane per evidence tier, and rounds over the lanes admit complete items
until the budget refuses all that is left.
-/

def maxEvidenceContextCandidates : Nat := 10000

def maxEvidenceContextBudgetUnits : UInt64 := 1048576

inductive EvidenceContextProfile where
  | evidenceBalancedV1
  deriving DecidableEq

/-- Ordered evidence tiers. -/
inductive EvidenceContextTier where
  | anchor
  | preciseOverlay
  | syntaxEvidence
  | structural
  | references
  | memory
  | history
  | unresolved
  deriving DecidableEq

/-- The evidence tiers in admission order, without the anchor. -/
def evidenceTiers : List EvidenceContextTier :=
  [.preciseOverlay, .syntaxEvidence, .structural, .references, .memory, .history, .unresolved]

def tierLane : EvidenceContextTier → Option (Fin 7)
  | .anchor => none
  | .preciseOverlay => some 0
  | .syntaxEvidence => some 1
  | .structural => some 2
  | .references => some 3
  | .memory => some 4
  | .history => some 5
  | .unresolved => some 6

inductive EvidenceContextProviderAvailability where
  | available
  | unavailable
  deriving DecidableEq

structure EvidenceContextProviderCoverage where
  tier : EvidenceContextTier
  availability : EvidenceContextProviderAvailability
  candidateCount : UInt64
  evidenceTier : tier ≠ .anchor
  consistent : availability = .available ↔ candidateCount ≠ 0
  deriving DecidableEq

structure EvidenceContextProviderAttribution where
  provider : Bytes32
  tier : EvidenceContextTier
  providerRank : Nat
  deriving DecidableEq

/-- Exact immutable source member shared by all candidates. -/
structure EvidenceContextScope where
  repository : Bytes32
  connectedWorkspace : Bytes32
  workspaceView : Int64
  sourceSlot : Bytes32
  sourceEpoch : UInt64
  generation : Int64
  snapshot : Bytes32
  manifest : Bytes32
  viewPositive : 0 < workspaceView
  epochPositive : sourceEpoch ≠ 0
  generationPositive : 0 < generation
  deriving DecidableEq

inductive EvidenceContextError where
  | invalidBudget
  | invalidInput
  | invalidCandidate
  | countNotRepresentable
  | cancelled
  | deadlineExceeded
  deriving DecidableEq

/-- A whole-item allocation budget. -/
structure EvidenceContextBudget where
  units : UInt64
  positive : units ≠ 0
  bounded : units ≤ maxEvidenceContextBudgetUnits
  deriving DecidableEq

/-- One complete candidate with everyone who proved it. -/
structure EvidenceContextCandidate (Payload : Type) where
  scope : EvidenceContextScope
  tier : EvidenceContextTier
  providerRank : Nat
  estimatedUnits : UInt64
  identity : Bytes32
  attributions : List EvidenceContextProviderAttribution
  payload : Payload
  ranked : providerRank ≠ 0
  costs : estimatedUnits ≠ 0
  attributed : attributions ≠ []
  deriving DecidableEq

variable {Payload : Type}

/--
Complete evidence inputs of one allocation request, with what its constructors
check.  The candidates are the duplicate groups, one for each identity.
-/
structure EvidenceContextInput (Payload : Type) where
  scope : EvidenceContextScope
  anchor : Option (EvidenceContextCandidate Payload)
  candidates : List (EvidenceContextCandidate Payload)
  providerCoverage : List EvidenceContextProviderCoverage
  anchorAdmissible : ∀ candidate ∈ anchor, candidate.tier = .anchor ∧ candidate.scope = scope
  bounded : candidates.length ≤ maxEvidenceContextCandidates
  admissible : ∀ candidate ∈ candidates, candidate.tier ≠ .anchor ∧ candidate.scope = scope
  distinct : (anchor.toList ++ candidates).Pairwise (·.identity ≠ ·.identity)
  coveredOnce : providerCoverage.Pairwise (·.tier ≠ ·.tier)
  deriving DecidableEq

/-! ## Allocation -/

structure EvidenceContextOmission where
  tier : EvidenceContextTier
  count : Nat
  deriving DecidableEq

/-- Complete allocation result in admission order. -/
structure EvidenceContextResult (Payload : Type) where
  profile : EvidenceContextProfile
  scope : EvidenceContextScope
  budget : EvidenceContextBudget
  usedUnits : Nat
  items : List (EvidenceContextCandidate Payload)
  providerCoverage : List EvidenceContextProviderCoverage
  omissions : List EvidenceContextOmission
  deriving DecidableEq

structure EvidenceAllocation (Payload : Type) where
  profile : EvidenceContextProfile
  scope : EvidenceContextScope
  budget : EvidenceContextBudget
  usedUnits : Nat
  items : List (EvidenceContextCandidate Payload)
  providerCoverage : List EvidenceContextProviderCoverage
  omissions : EvidenceContextTier → Nat

/-- Candidates waiting in the lane of each evidence tier. -/
abbrev EvidenceLanes (Payload : Type) := Fin 7 → List (EvidenceContextCandidate Payload)

/-- The order of admission within a lane. -/
def compareLaneCandidate : EvidenceContextCandidate Payload →
      EvidenceContextCandidate Payload → Ordering :=
  compareLex (compareOn (·.providerRank)) <|
  compareLex (compareOn (·.estimatedUnits)) (compareOn (·.identity))

def distributeCandidates : List (EvidenceContextCandidate Payload) → EvidenceLanes Payload →
      Except EvidenceContextError (EvidenceLanes Payload)
  | [], lanes => .ok lanes
  | candidate :: rest, lanes =>
    match tierLane candidate.tier with
    | none => .error .invalidInput
    | some lane =>
      distributeCandidates rest fun other =>
        if other = lane then
          lanes other ++ [candidate]
        else
          lanes other

namespace EvidenceAllocation

def new (profile : EvidenceContextProfile) (scope : EvidenceContextScope)
    (budget : EvidenceContextBudget) (providerCoverage : List EvidenceContextProviderCoverage) :
    EvidenceAllocation Payload where
  profile := profile
  scope := scope
  budget := budget
  usedUnits := 0
  items := []
  providerCoverage := providerCoverage
  omissions := fun _ => 0

def omitCandidate (allocation : EvidenceAllocation Payload) (tier : EvidenceContextTier) :
    Except EvidenceContextError (EvidenceAllocation Payload) :=
  if allocation.omissions tier + 1 < 2 ^ 64 then
    .ok
      { allocation with
        omissions := fun other =>
          if other = tier then
            allocation.omissions tier + 1
          else
            allocation.omissions other }
  else
    .error .countNotRepresentable

def tryAdmit (allocation : EvidenceAllocation Payload)
    (candidate : EvidenceContextCandidate Payload) :
    Polled EvidenceContextError (Bool × EvidenceAllocation Payload) := do
  Polled.poll
  let next := allocation.usedUnits + candidate.estimatedUnits.toNat
  if next < 2 ^ 64 then
    if allocation.budget.units.toNat < next then
      let omitted ← Polled.done (allocation.omitCandidate candidate.tier)
      pure (false, omitted)
    else
      pure (true,
          { allocation with
            usedUnits := next
            items := allocation.items ++ [candidate] })
  else
    Polled.fail .countNotRepresentable

/-- Pop candidates of one lane until one is admitted. -/
def admitLane : List (EvidenceContextCandidate Payload) →
      EvidenceAllocation Payload → Polled EvidenceContextError
          (Bool × List (EvidenceContextCandidate Payload) × EvidenceAllocation Payload)
  | [], allocation => pure (false, [], allocation)
  | candidate :: rest, allocation => do
    let (admitted, updated) ← allocation.tryAdmit candidate
    if admitted then
      pure (true, rest, updated)
    else
      admitLane rest updated

/-- One round over the given tiers. -/
def admitRound : List EvidenceContextTier → Bool → EvidenceLanes Payload →
      EvidenceAllocation Payload → Polled EvidenceContextError
          (Bool × EvidenceLanes Payload × EvidenceAllocation Payload)
  | [], admitted, lanes, allocation => pure (admitted, lanes, allocation)
  | tier :: tiers, admitted, lanes, allocation =>
    match tierLane tier with
    | none => admitRound tiers admitted lanes allocation
    | some lane => do
      let (here, rest, updated) ← admitLane (lanes lane) allocation
      admitRound tiers (admitted || here)
        (fun other => if other = lane then rest else lanes other)
        updated

/-- Rounds until one admits nothing.  A round that admits something takes a
candidate away, so the number of candidates bounds the rounds. -/
def admitRounds : Nat → EvidenceLanes Payload → EvidenceAllocation Payload →
      Polled EvidenceContextError
        (EvidenceLanes Payload × EvidenceAllocation Payload)
  | 0, lanes, allocation => pure (lanes, allocation)
  | fuel + 1, lanes, allocation => do
    let (admitted, remaining, updated) ← admitRound evidenceTiers false lanes allocation
    if admitted then
      admitRounds fuel remaining updated
    else
      pure (remaining, updated)

def finish (allocation : EvidenceAllocation Payload) : EvidenceContextResult Payload where
  profile := allocation.profile
  scope := allocation.scope
  budget := allocation.budget
  usedUnits := allocation.usedUnits
  items := allocation.items
  providerCoverage := allocation.providerCoverage
  omissions :=
    (EvidenceContextTier.anchor :: evidenceTiers).filterMap fun tier =>
      if allocation.omissions tier ≠ 0 then
        some ⟨tier, allocation.omissions tier⟩
      else
        none

end EvidenceAllocation

inductive EvidenceContextStop where
  | cancelled
  | deadlineExceeded
  deriving DecidableEq

/-- The answers of the cancellation flag and the deadline to each poll. -/
structure EvidenceContextControl where
  signal : Nat → Option EvidenceContextStop

def EvidenceContextControl.answer (control : EvidenceContextControl)
    (poll : Nat) : Option EvidenceContextError :=
  (control.signal poll).map fun
    | .cancelled => .cancelled
    | .deadlineExceeded => .deadlineExceeded

/-- The whole allocation with its polls. -/
def polledEvidenceContext (profile : EvidenceContextProfile) (input : EvidenceContextInput Payload)
    (budget : EvidenceContextBudget) :
    Polled EvidenceContextError (EvidenceContextResult Payload) := do
  Polled.poll
  let distributed ← Polled.done (distributeCandidates input.candidates fun _ => [])
  let lanes : EvidenceLanes Payload := fun lane => sortBy compareLaneCandidate (distributed lane)
  let initial := EvidenceAllocation.new profile input.scope budget input.providerCoverage
  let anchored ← match input.anchor with
    | none => pure initial
    | some anchor => do
      let (_, updated) ← initial.tryAdmit anchor
      pure updated
  let (_, allocation) ← EvidenceAllocation.admitRounds (input.candidates.length + 1) lanes anchored
  pure allocation.finish

/-- Allocate exact evidence through the named profile. -/
def compileEvidenceContext (profile : EvidenceContextProfile) (input : EvidenceContextInput Payload)
    (budget : EvidenceContextBudget) (control : EvidenceContextControl) :
    Except EvidenceContextError (EvidenceContextResult Payload) :=
  (polledEvidenceContext profile input budget).observe control.answer

end RepoWitness
