import Mathlib.Algebra.BigOperators.Fin
import Mathlib.Algebra.Order.BigOperators.Group.Finset
import Mathlib.Algebra.Order.Group.Multiset
import Mathlib.Data.Multiset.AddSub
import Mathlib.Tactic.Abel
import RepoWitness.EvidenceContextModel

namespace RepoWitness

/-!
# What an allocation admits and omits

Every part of an allocation appends the candidates it admits to the items and
counts those it omits.  A round takes at most one candidate from every lane, in
the order of the lane, and a lane it takes none from is empty afterwards, so
the rounds end when every candidate is admitted or omitted.
-/

variable {Payload : Type}

def totalUnits (candidates : List (EvidenceContextCandidate Payload)) : Nat :=
  (candidates.map fun candidate => candidate.estimatedUnits.toNat).sum

def inLane (lane : Fin 7) (candidate : EvidenceContextCandidate Payload) : Bool :=
  tierLane candidate.tier = some lane

namespace EvidenceAllocation

variable {taken moreTaken skipped moreSkipped rest lane : List (EvidenceContextCandidate Payload)}
  {before middle after : EvidenceAllocation Payload} {lanes remaining : EvidenceLanes Payload}
  {candidate : EvidenceContextCandidate Payload} {admitted : Bool}

/-- The allocation after it admits some candidates and omits others. -/
structure Extends (before : EvidenceAllocation Payload)
    (taken skipped : List (EvidenceContextCandidate Payload))
    (after : EvidenceAllocation Payload) : Prop where
  budget : after.budget = before.budget
  items : after.items = before.items ++ taken
  used : after.usedUnits = before.usedUnits + totalUnits taken
  within : before.usedUnits ≤ before.budget.units.toNat → after.usedUnits ≤ after.budget.units.toNat
  omissions : ∀ tier, after.omissions tier = before.omissions tier + skipped.countP (·.tier = tier)
  refused : ∀ candidate ∈ skipped,
      before.budget.units.toNat < after.usedUnits + candidate.estimatedUnits.toNat

theorem Extends.refl : Extends before [] [] before where
  budget := rfl
  items := (List.append_nil _).symm
  used := rfl
  within := id
  omissions _ := rfl
  refused := nofun

theorem Extends.trans (first : Extends before taken skipped middle)
    (second : Extends middle moreTaken moreSkipped after) :
    Extends before (taken ++ moreTaken) (skipped ++ moreSkipped) after where
  budget := second.budget.trans first.budget
  items := by rw [second.items, first.items, List.append_assoc]
  used := by
    rw [second.used, first.used]
    simp [totalUnits, Nat.add_assoc]
  within fits := second.within (first.within fits)
  omissions tier := by rw [second.omissions, first.omissions, List.countP_append, Nat.add_assoc]
  refused candidate member := by
    rcases List.mem_append.mp member with earlier | later
    · have larger := first.refused candidate earlier
      have used := second.used
      omega
    · exact first.budget ▸ second.refused candidate later

theorem extends_of_tryAdmit (tried : (before.tryAdmit candidate).result = .ok (admitted, after)) :
    Extends before (if admitted then [candidate] else []) (if admitted then [] else [candidate])
      after := by
  simp only [tryAdmit, Polled.result_bind, Polled.result_poll, except_ok_bind] at tried
  split at tried
  · split at tried
    next exceeds =>
      simp only [Polled.result_bind, Polled.result_done, Polled.result_pure, omitCandidate] at tried
      split at tried
      · cases tried
        refine ⟨rfl, (List.append_nil _).symm, rfl, id, fun tier => ?_, ?_⟩
        · by_cases same : tier = candidate.tier
          · simp [same]
          · simp [same, Ne.symm same]
        · simpa using exceeds
      · cases tried
    next fits =>
      cases tried
      exact ⟨rfl, rfl, by simp [totalUnits], fun _ => Nat.not_lt.mp fits, fun _ => rfl, nofun⟩
  · cases tried

theorem admitLane_spec (popped : (admitLane lane before).result = .ok (admitted, rest, after)) :
    ∃ (taken : Option (EvidenceContextCandidate Payload))
      (skipped : List (EvidenceContextCandidate Payload)),
      Extends before taken.toList skipped after ∧ lane = skipped ++ taken.toList ++ rest ∧
        admitted = taken.isSome ∧ (taken = none → rest = []) := by
  induction lane generalizing before with
  | nil =>
    cases Except.ok.inj popped
    exact ⟨none, [], .refl, rfl, rfl, fun _ => rfl⟩
  | cons candidate later hypothesis =>
    unfold admitLane at popped
    rw [Polled.result_bind, except_bind_eq_ok_iff] at popped
    obtain ⟨⟨here, middle⟩, tried, popped⟩ := popped
    have grown := extends_of_tryAdmit tried
    cases here with
    | true =>
      cases Except.ok.inj popped
      exact ⟨some candidate, [], grown, rfl, rfl, nofun⟩
    | false =>
      obtain ⟨taken, skipped, more, rfl, isAdmitted, emptied⟩ := hypothesis popped
      exact ⟨taken, candidate :: skipped, grown.trans more, rfl, isAdmitted, emptied⟩

/-! ## Rounds -/

def waiting (lanes : EvidenceLanes Payload) : Multiset (EvidenceContextCandidate Payload) :=
  ∑ lane, ↑(lanes lane)

/-- Every candidate waits in its own lane. -/
def Sorted (lanes : EvidenceLanes Payload) : Prop :=
  ∀ lane, ∀ candidate ∈ lanes lane, inLane lane candidate = true

structure Takes (tiers : List EvidenceContextTier) (lanes : EvidenceLanes Payload)
    (taken skipped : List (EvidenceContextCandidate Payload)) (remaining : EvidenceLanes Payload) :
    Prop where
  conserved : waiting lanes = ↑taken + ↑skipped + waiting remaining
  onePerTier : (taken.map (·.tier)).Sublist tiers
  ordered : ∀ lane, ∃ consumed, lanes lane = consumed ++ remaining lane ∧
      (taken.filter (inLane lane)).Sublist consumed
  drained :
    ∀ tier ∈ tiers, ∀ lane, tierLane tier = some lane → taken.filter (inLane lane) = [] →
      remaining lane = []

theorem tierLane_injective {first second : EvidenceContextTier} {lane : Fin 7}
    (isFirst : tierLane first = some lane) (isSecond : tierLane second = some lane) :
    first = second := by
  revert isFirst isSecond
  revert lane
  cases first <;> cases second <;> decide

/-- The lanes after one of them is popped. -/
def withLane (lanes : EvidenceLanes Payload) (lane : Fin 7)
    (rest : List (EvidenceContextCandidate Payload)) : EvidenceLanes Payload :=
  fun other => if other = lane then rest else lanes other

theorem waiting_withLane {lane : Fin 7} (split : lanes lane = skipped ++ taken ++ rest) :
    waiting lanes = ↑taken + ↑skipped + waiting (withLane lanes lane rest) := by
  have others : ∀ update : EvidenceLanes Payload, waiting update =
        Multiset.ofList (update lane) +
          ∑ other ∈ Finset.univ.erase lane, Multiset.ofList (update other) :=
    fun update => (Finset.add_sum_erase _ _ (Finset.mem_univ lane)).symm
  have same :
      ∑ other ∈ Finset.univ.erase lane, Multiset.ofList (withLane lanes lane rest other) =
        ∑ other ∈ Finset.univ.erase lane, Multiset.ofList (lanes other) :=
    Finset.sum_congr rfl fun other member => by
      rw [withLane, if_neg (Finset.ne_of_mem_erase member)]
  rw [others lanes, others (withLane lanes lane rest), same, split, withLane, if_pos rfl,
    ← Multiset.coe_add, ← Multiset.coe_add]
  abel

theorem Sorted.withLane {lane : Fin 7} (sorted : Sorted lanes)
    (split : lanes lane = skipped ++ taken ++ rest) :
    Sorted (withLane lanes lane rest) := by
  intro other candidate member
  refine sorted other candidate ?_
  unfold EvidenceAllocation.withLane at member
  split at member
  next same => simp [same, split, member]
  next => exact member

variable {tier : EvidenceContextTier} {tiers : List EvidenceContextTier}

/-- Popping a lane before a round over later tiers. -/
theorem Takes.cons {lane : Fin 7}
    {first : Option (EvidenceContextCandidate Payload)} (isLane : tierLane tier = some lane)
    (sorted : Sorted lanes) (split : lanes lane = skipped ++ first.toList ++ rest)
    (emptied : first = none → rest = [])
    (takes : Takes tiers (withLane lanes lane rest) taken moreSkipped remaining) :
    Takes (tier :: tiers) lanes (first.toList ++ taken) (skipped ++ moreSkipped) remaining := by
  have mine : ∀ candidate ∈ first.toList, inLane lane candidate = true :=
    fun candidate member => sorted lane candidate (by simp [split, member])
  have kept : first.toList.filter (inLane lane) = first.toList := List.filter_eq_self.mpr mine
  obtain ⟨consumed, consumes, among⟩ := takes.ordered lane
  rw [withLane, if_pos rfl] at consumes
  refine ⟨?_, ?_, fun other => ?_, List.forall_mem_cons.mpr ⟨?_, ?_⟩⟩
  · rw [waiting_withLane split, takes.conserved, ← Multiset.coe_add, ← Multiset.coe_add]
    abel
  · rw [List.map_append]
    have head : (first.toList.map (·.tier)).Sublist [tier] := by
      cases first with
      | none => exact List.nil_sublist _
      | some candidate =>
        have same := of_decide_eq_true (mine candidate (by simp))
        rw [← tierLane_injective same isLane]
        exact .refl _
    exact head.append takes.onePerTier
  · by_cases same : other = lane
    · subst same
      refine ⟨skipped ++ first.toList ++ consumed, by simp [split, consumes], ?_⟩
      rw [List.filter_append, kept]
      exact (List.sublist_append_right _ _).append among
    · obtain ⟨consumed, consumes, among⟩ := takes.ordered other
      rw [withLane, if_neg same] at consumes
      refine ⟨consumed, consumes, ?_⟩
      have none : first.toList.filter (inLane other) = [] := by
        refine List.filter_eq_nil_iff.mpr fun candidate member matched => same ?_
        exact Option.some.inj
          ((of_decide_eq_true matched).symm.trans (of_decide_eq_true (mine candidate member)))
      rwa [List.filter_append, none, List.nil_append]
  · intro other isOther empty
    cases Option.some.inj (isOther.symm.trans isLane)
    rw [List.filter_append, kept, List.append_eq_nil_iff] at empty
    rw [emptied (Option.toList_eq_nil_iff.mp empty.1)] at consumes
    exact (List.append_eq_nil_iff.mp consumes.symm).2
  · intro other isOther laneOther isLaneOther empty
    rw [List.filter_append, List.append_eq_nil_iff] at empty
    exact takes.drained other isOther laneOther isLaneOther empty.2

theorem admitRound_spec {start : Bool} (sorted : Sorted lanes)
    (ran : (admitRound tiers start lanes before).result = .ok (admitted, remaining, after)) :
    ∃ taken skipped, Extends before taken skipped after ∧
      Takes tiers lanes taken skipped remaining ∧ admitted = (start || !taken.isEmpty) := by
  induction tiers generalizing start lanes before with
  | nil =>
    cases Except.ok.inj ran
    refine ⟨[], [], .refl, ⟨by simp, .refl _, fun lane => ⟨[], rfl, .refl _⟩, nofun⟩, by simp⟩
  | cons tier tiers hypothesis =>
    unfold admitRound at ran
    split at ran
    next noLane =>
      obtain ⟨taken, skipped, grown, takes, isAdmitted⟩ := hypothesis sorted ran
      refine ⟨taken, skipped, grown,
        { takes with onePerTier := takes.onePerTier.cons _, drained := ?_ }, isAdmitted⟩
      refine List.forall_mem_cons.mpr ⟨fun lane isLane => ?_, takes.drained⟩
      rw [noLane] at isLane
      cases isLane
    next lane isLane =>
      rw [Polled.result_bind, except_bind_eq_ok_iff] at ran
      obtain ⟨⟨here, rest, middle⟩, popped, ran⟩ := ran
      obtain ⟨first, omitted, grown, split, rfl, emptied⟩ := admitLane_spec popped
      obtain ⟨taken, skipped, more, takes, rfl⟩ := hypothesis (sorted.withLane split) ran
      refine ⟨first.toList ++ taken, omitted ++ skipped, grown.trans more,
        takes.cons isLane sorted split emptied, ?_⟩
      cases first <;> simp

structure Shared (lanes : EvidenceLanes Payload)
    (rounds : List (List (EvidenceContextCandidate Payload)))
    (skipped : List (EvidenceContextCandidate Payload)) : Prop where
  conserved : waiting lanes = ↑rounds.flatten + ↑skipped
  nonempty : [] ∉ rounds
  onePerTier : ∀ round ∈ rounds, (round.map (·.tier)).Sublist evidenceTiers
  ordered : ∀ lane, (rounds.flatten.filter (inLane lane)).Sublist (lanes lane)
  nested :
    rounds.Pairwise fun earlier later =>
      ∀ candidate ∈ later, ∃ other ∈ earlier, other.tier = candidate.tier

theorem tierLane_isSome (listed : tier ∈ evidenceTiers) : ∃ lane, tierLane tier = some lane := by
  revert tier
  decide

theorem exists_tier_of_lane (lane : Fin 7) : ∃ tier ∈ evidenceTiers, tierLane tier = some lane := by
  revert lane
  decide

/-- A first round before the rounds over the lanes it leaves. -/
theorem Shared.cons {rounds : List (List (EvidenceContextCandidate Payload))}
    (nonempty : taken ≠ []) (takes : Takes evidenceTiers lanes taken skipped remaining)
    (shared : Shared remaining rounds moreSkipped) :
    Shared lanes (taken :: rounds) (skipped ++ moreSkipped) := by
  refine ⟨?_, ?_, List.forall_mem_cons.mpr ⟨takes.onePerTier, shared.onePerTier⟩, fun lane => ?_,
    .cons (fun later isLater candidate member => ?_) shared.nested⟩
  · rw [takes.conserved, shared.conserved, List.flatten_cons, ← Multiset.coe_add,
      ← Multiset.coe_add]
    abel
  · simpa using ⟨nonempty, shared.nonempty⟩
  · obtain ⟨consumed, consumes, among⟩ := takes.ordered lane
    rw [List.flatten_cons, List.filter_append, consumes]
    exact among.append (shared.ordered lane)
  · have isTier : candidate.tier ∈ evidenceTiers :=
      (shared.onePerTier later isLater).subset (List.mem_map_of_mem member)
    obtain ⟨lane, isLane⟩ := tierLane_isSome isTier
    by_contra missing
    -- A lane that the first round takes nothing from is empty in later rounds.
    have none : taken.filter (inLane lane) = [] := by
      refine List.filter_eq_nil_iff.mpr fun other isOther same => missing ?_
      exact ⟨other, isOther, tierLane_injective (of_decide_eq_true same) isLane⟩
    have later := shared.ordered lane
    rw [takes.drained _ isTier lane isLane none, List.sublist_nil, List.filter_eq_nil_iff] at later
    exact later candidate (List.mem_flatten_of_mem isLater member) (decide_eq_true isLane)

theorem admitRounds_spec {fuel : Nat} (sorted : Sorted lanes) (enough : (waiting lanes).card < fuel)
    (ran : (admitRounds fuel lanes before).result = .ok (remaining, after)) :
    ∃ rounds skipped,
      Extends before rounds.flatten skipped after ∧ Shared lanes rounds skipped := by
  induction fuel generalizing lanes before with
  | zero => omega
  | succ fuel hypothesis =>
    unfold admitRounds at ran
    rw [Polled.result_bind, except_bind_eq_ok_iff] at ran
    obtain ⟨⟨admitted, left, middle⟩, round, ran⟩ := ran
    obtain ⟨taken, skipped, grown, takes, rfl⟩ := admitRound_spec sorted round
    by_cases nonempty : taken = []
    · subst nonempty
      cases Except.ok.inj ran
      have drained : remaining = fun _ => [] := funext fun lane => by
        obtain ⟨tier, isTier, isLane⟩ := exists_tier_of_lane lane
        exact takes.drained tier isTier lane isLane rfl
      have conserved := takes.conserved
      simp only [drained, waiting, Multiset.coe_nil, Finset.sum_const_zero, add_zero] at conserved
      exact ⟨[], skipped, grown, conserved, by simp, by simp, fun lane => List.nil_sublist _, .nil⟩
    · have card := congrArg Multiset.card takes.conserved
      have shorter := List.length_pos_of_ne_nil nonempty
      simp only [Multiset.card_add, Multiset.coe_card] at card
      have sortedLeft : Sorted left := fun lane candidate member => by
        obtain ⟨consumed, consumes, _⟩ := takes.ordered lane
        exact sorted lane candidate (by simp [consumes, member])
      dsimp only at ran
      rw [if_pos (by simpa using nonempty)] at ran
      obtain ⟨rounds, moreSkipped, more, shared⟩ := hypothesis sortedLeft (by omega) ran
      exact ⟨taken :: rounds, skipped ++ moreSkipped, grown.trans more, shared.cons nonempty takes⟩

theorem distributeCandidates_spec {candidates : List (EvidenceContextCandidate Payload)}
    {distributed : EvidenceLanes Payload}
    (accepted : distributeCandidates candidates lanes = .ok distributed) :
    (∀ lane, distributed lane = lanes lane ++ candidates.filter (inLane lane)) ∧
      waiting distributed = waiting lanes + ↑candidates := by
  induction candidates generalizing lanes with
  | nil =>
    cases Except.ok.inj accepted
    simp
  | cons candidate rest hypothesis =>
    unfold distributeCandidates at accepted
    split at accepted
    · cases accepted
    next lane isLane =>
      obtain ⟨appended, total⟩ := hypothesis accepted
      refine ⟨fun other => ?_, ?_⟩
      · rw [appended other]
        by_cases same : other = lane
        · simp [same, inLane, isLane]
        · simp [same, inLane, isLane, Ne.symm same]
      · have pushed : ∀ other,
              Multiset.ofList (if other = lane then lanes other ++ [candidate] else lanes other) =
                ↑(lanes other) + if other = lane then {candidate} else 0 := by
          intro other
          split <;> simp [← Multiset.coe_add]
        rw [total, waiting]
        simp only [pushed, Finset.sum_add_distrib, Finset.sum_ite_eq', Finset.mem_univ, if_true]
        rw [← Multiset.cons_coe, ← Multiset.singleton_add, waiting, add_assoc]

end EvidenceAllocation

/-! ## The allocation -/

structure Allocated (input : EvidenceContextInput Payload) (budget : EvidenceContextBudget)
    (result : EvidenceContextResult Payload)
    (anchored unanchored : List (EvidenceContextCandidate Payload))
    (rounds : List (List (EvidenceContextCandidate Payload)))
    (skipped : List (EvidenceContextCandidate Payload)) : Prop where
  items : result.items = anchored ++ rounds.flatten
  anchor : anchored ++ unanchored = input.anchor.toList
  candidates : (rounds.flatten ++ skipped).Perm input.candidates
  omissions : result.omissions =
      (EvidenceContextTier.anchor :: evidenceTiers).filterMap fun tier =>
        if (unanchored ++ skipped).countP (·.tier = tier) ≠ 0 then
          some ⟨tier, (unanchored ++ skipped).countP (·.tier = tier)⟩
        else none
  used : result.usedUnits = totalUnits result.items
  within : result.usedUnits ≤ budget.units.toNat
  refused : ∀ candidate ∈ unanchored ++ skipped,
      budget.units.toNat < result.usedUnits + candidate.estimatedUnits.toNat
  nonempty : [] ∉ rounds
  onePerTier : ∀ round ∈ rounds, (round.map (·.tier)).Sublist evidenceTiers
  nested :
    rounds.Pairwise fun earlier later =>
      ∀ candidate ∈ later, ∃ other ∈ earlier, other.tier = candidate.tier
  ordered : ∀ tier ∈ evidenceTiers,
      (rounds.flatten.filter (·.tier = tier)).Sublist
        (sortBy compareLaneCandidate (input.candidates.filter (·.tier = tier)))

theorem filter_inLane {tier : EvidenceContextTier} {lane : Fin 7}
    (isLane : tierLane tier = some lane) (candidates : List (EvidenceContextCandidate Payload)) :
    candidates.filter (inLane lane) = candidates.filter (·.tier = tier) := by
  refine List.filter_congr fun candidate _ => decide_eq_decide.mpr ⟨fun same => ?_, ?_⟩
  · exact EvidenceAllocation.tierLane_injective same isLane
  · rintro rfl
    exact isLane

theorem allocated_of_rounds {profile : EvidenceContextProfile}
    {input : EvidenceContextInput Payload} {budget : EvidenceContextBudget}
    {distributed remaining : EvidenceLanes Payload} {allocation final : EvidenceAllocation Payload}
    {anchored unanchored : List (EvidenceContextCandidate Payload)}
    (accepted : distributeCandidates input.candidates (fun _ => []) = .ok distributed)
    (tried :
      EvidenceAllocation.Extends (.new profile input.scope budget input.providerCoverage) anchored
        unanchored allocation)
    (anchor : anchored ++ unanchored = input.anchor.toList)
    (ran :
      (EvidenceAllocation.admitRounds (input.candidates.length + 1)
        (fun lane => sortBy compareLaneCandidate (distributed lane)) allocation).result =
        .ok (remaining, final)) :
    ∃ rounds skipped, Allocated input budget final.finish anchored unanchored rounds skipped := by
  obtain ⟨appended, total⟩ := EvidenceAllocation.distributeCandidates_spec accepted
  simp only [List.nil_append] at appended
  have permuted :
      EvidenceAllocation.waiting (fun lane => sortBy compareLaneCandidate (distributed lane)) =
        ↑input.candidates := by
    have same := fun lane =>
      Multiset.coe_eq_coe.mpr (sortBy_perm compareLaneCandidate (distributed lane))
    simp only [EvidenceAllocation.waiting, same] at total ⊢
    rw [total]
    simp
  have sorted :
      EvidenceAllocation.Sorted fun lane => sortBy compareLaneCandidate (distributed lane) := by
    intro lane candidate member
    rw [(sortBy_perm _ _).mem_iff, appended] at member
    exact (List.mem_filter.mp member).2
  obtain ⟨rounds, skipped, grown, shared⟩ :=
    EvidenceAllocation.admitRounds_spec sorted (by rw [permuted]; simp) ran
  have whole := tried.trans grown
  have items : final.items = anchored ++ rounds.flatten := whole.items.trans (List.nil_append _)
  have counts : ∀ tier, final.omissions tier = (unanchored ++ skipped).countP (·.tier = tier) :=
    fun tier => (whole.omissions tier).trans (Nat.zero_add _)
  refine ⟨rounds, skipped, items, anchor, ?_, ?_, ?_, ?_, whole.refused, shared.nonempty,
    shared.onePerTier, shared.nested, fun tier isTier => ?_⟩
  · exact Multiset.coe_eq_coe.mp (shared.conserved.symm.trans permuted)
  · simp only [EvidenceAllocation.finish, counts]
  · exact (whole.used.trans (Nat.zero_add _)).trans (congrArg totalUnits items.symm)
  · have within := whole.within (Nat.zero_le _)
    rwa [whole.budget] at within
  · obtain ⟨lane, isLane⟩ := EvidenceAllocation.tierLane_isSome isTier
    have ordered := shared.ordered lane
    rwa [appended, filter_inLane isLane, filter_inLane isLane] at ordered

namespace Sample

def evidenceScope : EvidenceContextScope where
  repository := 1
  connectedWorkspace := 2
  workspaceView := 1
  sourceSlot := 3
  sourceEpoch := 1
  generation := 1
  snapshot := 4
  manifest := 5
  viewPositive := by decide
  epochPositive := by decide
  generationPositive := by decide

def evidenceCandidate (tier : EvidenceContextTier) (identity : Bytes32) (rank : Nat)
    (units : UInt64) (ranked : rank ≠ 0) (costs : units ≠ 0) : EvidenceContextCandidate Nat where
  scope := evidenceScope
  tier := tier
  providerRank := rank
  estimatedUnits := units
  identity := identity
  attributions := [⟨7, tier, rank⟩]
  payload := 0
  ranked := ranked
  costs := costs
  attributed := List.cons_ne_nil _ _

def evidenceInput : EvidenceContextInput Nat where
  scope := evidenceScope
  anchor := some (evidenceCandidate .anchor 1 1 1 (by decide) (by decide))
  candidates :=
    [evidenceCandidate .preciseOverlay 2 2 2 (by decide) (by decide),
      evidenceCandidate .preciseOverlay 3 1 2 (by decide) (by decide),
      evidenceCandidate .syntaxEvidence 4 1 2 (by decide) (by decide),
      evidenceCandidate .syntaxEvidence 5 2 4 (by decide) (by decide)]
  providerCoverage := []
  anchorAdmissible := by decide
  bounded := by decide
  admissible := by decide
  distinct := by decide
  coveredOnce := .nil

def evidenceBudget : EvidenceContextBudget where
  units := 10
  positive := by decide
  bounded := by decide

end Sample

/-- A compiled context admits every candidate once or counts it as omitted once, leaves no room
for an omitted one, and takes turns between the tiers. -/
theorem evidence_context_allocates {profile : EvidenceContextProfile}
    {input : EvidenceContextInput Payload} {budget : EvidenceContextBudget}
    {control : EvidenceContextControl} {result : EvidenceContextResult Payload}
    (compiled : compileEvidenceContext profile input budget control = .ok result) :
    ∃ anchored unanchored rounds skipped,
      Allocated input budget result anchored unanchored rounds skipped := by
  have compiled := Polled.result_of_observe_ok compiled
  simp only [polledEvidenceContext, Polled.result_bind, Polled.result_poll, Polled.result_done,
    except_ok_bind, except_bind_eq_ok_iff] at compiled
  obtain ⟨distributed, accepted, compiled⟩ := compiled
  cases anchor : input.anchor with
  | none =>
    simp only [anchor, Polled.result_bind, Polled.result_pure, except_ok_bind,
      except_bind_eq_ok_iff] at compiled
    obtain ⟨⟨remaining, final⟩, ran, same⟩ := compiled
    cases same
    exact ⟨[], [], allocated_of_rounds accepted .refl (by rw [anchor]; rfl) ran⟩
  | some candidate =>
    simp only [anchor, Polled.result_bind, Polled.result_pure, except_ok_bind,
      except_bind_eq_ok_iff] at compiled
    obtain ⟨⟨admitted, allocation⟩, tried, ⟨remaining, final⟩, ran, same⟩ := compiled
    cases same
    refine ⟨_, _,
      allocated_of_rounds accepted (EvidenceAllocation.extends_of_tryAdmit tried) ?_ ran⟩
    rw [anchor]
    cases admitted <;> rfl

/-- Two rounds over two tiers; the last candidate no longer fits. -/
theorem evidence_context_allocates_two_rounds : ∃ result,
      compileEvidenceContext .evidenceBalancedV1 Sample.evidenceInput Sample.evidenceBudget
          ⟨fun _ => none⟩ = .ok result ∧
        result.items.map (·.identity) = [1, 3, 4, 2] ∧
        result.omissions = [⟨.syntaxEvidence, 1⟩] ∧
        ∃ anchored unanchored rounds skipped,
          Allocated Sample.evidenceInput Sample.evidenceBudget result anchored unanchored rounds
            skipped := by
  refine ⟨_, rfl, by decide +kernel, by decide +kernel, ?_⟩
  exact @evidence_context_allocates Nat .evidenceBalancedV1 _ _ ⟨fun _ => none⟩ _ rfl

end RepoWitness
