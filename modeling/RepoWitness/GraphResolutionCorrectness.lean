import RepoWitness.GraphResolutionCandidates

namespace RepoWitness

open Std
open Text

/-!
# Resolution against the rule

The engine resolves every site of an admitted input to the candidates of its
own reading of the target.  That reading is the declared one except for single
names spelled with a leading `crate::` or `::`, which the engine takes for bare
names; the outcomes follow the rule exactly when no such name matches anything.
-/

/-! ## The output -/

namespace RustGraphResolutionOutcome

def isUnresolved : RustGraphResolutionOutcome → Bool
  | .unresolved _ => true
  | _ => false

def isUnique : RustGraphResolutionOutcome → Bool
  | .unique _ => true
  | _ => false

def isAmbiguous : RustGraphResolutionOutcome → Bool
  | .ambiguous _ => true
  | _ => false

/-- An unresolved outcome that is no plain miss. -/
def isUnsupported : RustGraphResolutionOutcome → Bool
  | .unresolved reason => decide (reason ≠ .noCandidate)
  | _ => false

end RustGraphResolutionOutcome

namespace OutputBuilder

variable {limits : RustGraphResolutionLimits} {builder extended : OutputBuilder}

/-- Accounting for output bytes changes nothing else. -/
theorem addOutputBytes_eq {bytes : Nat}
    (added : builder.addOutputBytes limits bytes = .ok extended) :
    extended = { builder with outputBytes := builder.outputBytes + bytes } := by
  unfold addOutputBytes at added
  split at added
  · cases added
  · split at added
    · cases added
    · cases added
      rfl

theorem retain_eq {count : Nat} (retained : builder.retain limits count = .ok extended) :
    builder.retainedCandidates + count ≤ limits.maxTotalCandidates ∧
      extended =
        { builder with
          retainedCandidates := builder.retainedCandidates + count } := by
  unfold retain at retained
  split at retained
  · cases retained
  · split at retained
    · cases retained
    case isFalse fits =>
      cases retained
      exact ⟨Nat.le_of_not_lt fits, rfl⟩

theorem addCandidates_eq {candidates : List CandidateRef}
    (added : (builder.addCandidates limits candidates).result = .ok extended) :
    ∃ bytes, extended = { builder with outputBytes := bytes } := by
  induction candidates generalizing builder with
  | nil =>
    cases added
    exact ⟨_, rfl⟩
  | cons candidate rest hypothesis =>
    simp only [addCandidates, Polled.result_bind, Polled.result_poll,
      Polled.result_done, except_ok_bind, except_bind_eq_ok_iff]
      at added
    obtain ⟨fixed, isFixed, located, isLocated, continued⟩ := added
    obtain ⟨bytes, rfl⟩ := hypothesis continued
    rw [addOutputBytes_eq isLocated, addOutputBytes_eq isFixed]
    exact ⟨bytes, rfl⟩

variable {next : Nat} {occurrence : RustGraphSiteOccurrence} {resolved : CandidateSet}

theorem increment_eq {value : Nat} (incremented : increment value = .ok next) :
    next = value + 1 := by
  unfold increment at incremented
  split at incremented
  · cases incremented
  · cases incremented
    rfl

theorem unsupportedAfter_eq {reason : RustGraphUnresolvedReason}
    (counted : builder.unsupportedAfter reason = .ok next) :
    next = builder.unsupported + if reason ≠ .noCandidate then 1 else 0 := by
  unfold unsupportedAfter at counted
  split at counted
  case isTrue miss => rw [increment_eq counted, if_pos miss]
  case isFalse plain =>
    cases counted
    rw [if_neg plain, Nat.add_zero]

/-- The counters after one more outcome. -/
def counted (builder : OutputBuilder) (outcome : RustGraphResolutionOutcome) : OutputBuilder :=
  { builder with
    unresolved := builder.unresolved + outcome.isUnresolved.toNat
    unique := builder.unique + outcome.isUnique.toNat
    ambiguous := builder.ambiguous + outcome.isAmbiguous.toNat
    unsupported := builder.unsupported + outcome.isUnsupported.toNat }

theorem count_eq {outcome : RustGraphResolutionOutcome}
    (isCounted : builder.count outcome = .ok extended) :
    extended = builder.counted outcome := by
  cases outcome with
  | unresolved reason =>
    simp only [count, except_bind_eq_ok_iff, Except.ok.injEq] at isCounted
    obtain ⟨_, isUnresolved, _, isUnsupported, rfl⟩ := isCounted
    rw [increment_eq isUnresolved, unsupportedAfter_eq isUnsupported]
    cases reason <;> rfl
  | unique candidate =>
    simp only [count, except_bind_eq_ok_iff, Except.ok.injEq] at isCounted
    obtain ⟨_, isUnique, rfl⟩ := isCounted
    rw [increment_eq isUnique]
    rfl
  | ambiguous candidates =>
    simp only [count, except_bind_eq_ok_iff, Except.ok.injEq] at isCounted
    obtain ⟨_, isAmbiguous, rfl⟩ := isCounted
    rw [increment_eq isAmbiguous]
    rfl

theorem countTruncated_eq {truncated : Bool}
    (isCounted : builder.countTruncated truncated = .ok extended) :
    extended =
      { builder with
        truncatedSites := builder.truncatedSites + truncated.toNat } := by
  cases truncated with
  | false =>
    cases isCounted
    rfl
  | true =>
    simp only [countTruncated, if_true, except_bind_eq_ok_iff, Except.ok.injEq] at isCounted
    obtain ⟨_, isTruncated, rfl⟩ := isCounted
    rw [increment_eq isTruncated]
    rfl

theorem push_eq (pushed : (builder.push limits occurrence resolved).result = .ok extended) :
    resolved.candidates.length < 2 ^ 32 ∧
      extended.retainedCandidates ≤ limits.maxTotalCandidates ∧
      ∃ bytes, extended =
          { builder.counted (siteResolution limits occurrence resolved).outcome with
            outcomes := builder.outcomes ++ [siteResolution limits occurrence resolved]
            outputBytes := bytes
            truncatedSites := builder.truncatedSites +
                (siteResolution limits occurrence resolved).candidatesTruncated.toNat
            retainedCandidates := builder.retainedCandidates +
                (resolved.candidates.take limits.maxCandidatesPerSite).length } := by
  simp only [push, Polled.result_bind, Polled.result_poll, except_ok_bind] at pushed
  split at pushed
  · cases pushed
  case isFalse representable =>
    simp only [Polled.result_bind, Polled.result_done,
      Polled.result_pure, except_bind_eq_ok_iff, Except.ok.injEq]
      at pushed
    obtain ⟨retained, isRetained, fixed, isFixed, located, isLocated,
      listed, isListed, counted, isCounted, finished, isFinished,
      rfl⟩ := pushed
    obtain ⟨within, rfl⟩ := retain_eq isRetained
    obtain rfl := addOutputBytes_eq isFixed
    obtain rfl := addOutputBytes_eq isLocated
    obtain ⟨bytes, rfl⟩ := addCandidates_eq isListed
    obtain rfl := count_eq isCounted
    obtain rfl := countTruncated_eq isFinished
    exact ⟨Nat.lt_of_not_le representable, within, bytes, rfl⟩

theorem push_outcomes (pushed : (builder.push limits occurrence resolved).result = .ok extended) :
    extended.outcomes = builder.outcomes ++ [siteResolution limits occurrence resolved] := by
  obtain ⟨_, _, _, rfl⟩ := push_eq pushed
  rfl

end OutputBuilder

section Run

variable {definitions : List RustGraphDefinitionOccurrence} {sites : List RustGraphSiteOccurrence}
  {limits : RustGraphResolutionLimits} {index : DefinitionIndex} {imports : ImportIndex}

/-- What the engine resolves one site to. -/
def engineResolution (definitions : List RustGraphDefinitionOccurrence)
    (sites : List RustGraphSiteOccurrence) (limits : RustGraphResolutionLimits)
    (occurrence : RustGraphSiteOccurrence) : RustGraphSiteResolution :=
  siteResolution limits occurrence
    (readingSet definitions sites occurrence (engineReading occurrence))

theorem resolveSites_outcomes (admissible : Admissible definitions sites limits)
    (indexed : IndexesDefinitions (sortBy definitionOrdering definitions) index)
    (imported : IndexesImports sites imports) {order : List RustGraphSiteOccurrence}
    {builder output : OutputBuilder}
    (resolved : (resolveSites limits index imports builder order).result = .ok output) :
    output.outcomes =
      builder.outcomes ++ order.map (engineResolution definitions sites limits) := by
  induction order generalizing builder with
  | nil =>
    cases resolved
    simp
  | cons occurrence rest hypothesis =>
    simp only [resolveSites, Polled.result_bind, Polled.result_poll,
      except_ok_bind, resolveSite_result admissible indexed imported,
      except_bind_eq_ok_iff] at resolved
    obtain ⟨extended, pushed, continued⟩ := resolved
    rw [hypothesis continued, OutputBuilder.push_outcomes pushed]
    simp [engineResolution]

theorem resolution_outcomes {resolution : RustGraphResolution}
    (resolved : (resolveRustGraphSites definitions sites limits).result = .ok resolution) :
    Admissible definitions sites limits ∧
      resolution.outcomes =
        (sortBy siteOrdering sites).map (engineResolution definitions sites limits) := by
  obtain ⟨index, isIndex, indexed⟩ :=
    buildDefinitionIndex_indexes (sortBy definitionOrdering definitions)
  obtain ⟨imports, isImports, sortedImported⟩ :=
    buildImportIndex_indexes (sortBy siteOrdering sites)
  have imported : IndexesImports sites imports := by
    intro key binding
    rw [sortedImported key binding]
    simp only [(sortBy_perm siteOrdering sites).mem_iff]
  simp only [resolveRustGraphSites, Polled.result_bind,
    Polled.result_poll, Polled.result_done, except_ok_bind,
    except_bind_eq_ok_iff] at resolved
  obtain ⟨admitted, accepted, index', isIndex', imports', isImports',
    builder, started, output, ran, finished⟩ := resolved
  obtain ⟨admissible, rfl⟩ := admitInputs_eq_ok_iff.mp accepted
  simp only [admittedInput, isIndex, isImports, Except.ok.injEq] at isIndex' isImports'
  subst isIndex' isImports'
  refine ⟨admissible, ?_⟩
  have outcomes := resolveSites_outcomes admissible indexed imported ran
  have fresh : builder.outcomes = [] := by
    unfold OutputBuilder.new at started
    split at started
    · cases started
    · cases started
      rfl
  rw [fresh, List.nil_append] at outcomes
  simp only [OutputBuilder.finish, Polled.result_bind,
    Polled.result_poll, except_ok_bind] at finished
  split at finished
  · cases finished
  · cases finished
    exact outcomes

end Run

/-! ## Agreement with the rule -/

open NestedHelpers

section Agreement

variable (definitions : List RustGraphDefinitionOccurrence) (sites : List RustGraphSiteOccurrence)
  (limits : RustGraphResolutionLimits) (occurrence : RustGraphSiteOccurrence)

/--
A name spelled with a leading `crate::` or `::` matches no definition, neither
as the exact qualified name it spells nor as a bare name.
-/
def RootedTargetUnmatched : Prop := ∀ parsed eligible,
    rootedTarget occurrence = some (parsed, eligible) →
      ∀ definition ∈ definitions,
        matchesQualified parsed.path (slotFilter parsed.sameSlot occurrence.sourceSlot) eligible
            definition = false ∧
          matchesSyntax definitions sites occurrence parsed.path eligible definition = false ∧
          (definition.fact.name == parsed.path && isEligible definition eligible) = false

variable {definitions sites limits occurrence}

/-- The candidates an outcome retains. -/
def RustGraphResolutionOutcome.retained :
    RustGraphResolutionOutcome → List RustGraphResolutionCandidate
  | .unresolved _ => []
  | .unique candidate => [candidate]
  | .ambiguous candidates => candidates

theorem retained_outcomeOf (reason : RustGraphUnresolvedReason) (truncated : Bool)
    (candidates : List RustGraphResolutionCandidate) :
    (outcomeOf reason truncated candidates).retained = candidates := by
  unfold outcomeOf
  split
  · rfl
  · cases truncated <;> rfl
  · rfl

variable {path : Text} {sourceSlot : Option Bytes32} {eligible : EligibleDefinitions}
  {candidate : CandidateRef}

/-- A qualified reading and a bare one never share evidence. -/
theorem evidence_of_mem_qualified {evidence : RustGraphResolutionEvidence}
    (member : candidate ∈ readingCandidates definitions sites occurrence
          (.qualified path sourceSlot evidence eligible)) :
    candidate.evidence = evidence := by
  obtain ⟨_, isEvidence⟩ := mem_scanned.mp member
  simp only [readingEvidence] at isEvidence
  split at isEvidence
  · exact (Option.some.inj isEvidence).symm
  · cases isEvidence

theorem evidence_of_mem_bare {name : Text}
    (member : candidate ∈ readingCandidates definitions sites occurrence (.bare name eligible)) :
    candidate.evidence ≠ .qualifiedSyntax := by
  obtain ⟨_, isEvidence⟩ := mem_scanned.mp member
  intro isQualified
  rw [isQualified] at isEvidence
  simp only [readingEvidence] at isEvidence
  repeat (split at isEvidence; · cases isEvidence)
  cases isEvidence

/-- The retained candidates of a nonempty set are not empty. -/
theorem take_eq_nil {candidates : List CandidateRef}
    (none : candidates.take limits.maxCandidatesPerSite = []) :
    candidates = [] := by
  have positive := limits.candidatesBounded.1
  rcases List.take_eq_nil_iff.mp none with zero | empty
  · omega
  · exact empty

/-- Readings with different evidence agree only when they match nothing. -/
theorem siteResolution_eq_iff : siteResolution limits occurrence
          (readingSet definitions sites occurrence (.bare path eligible)) =
        siteResolution limits occurrence
          (readingSet definitions sites occurrence
            (.qualified path sourceSlot .qualifiedSyntax eligible)) ↔
      readingCandidates definitions sites occurrence (.bare path eligible) = [] ∧
        readingCandidates definitions sites occurrence
            (.qualified path sourceSlot .qualifiedSyntax eligible) =
          [] := by
  constructor
  · intro same
    have retained := congrArg (fun resolution => resolution.outcome.retained) same
    simp only [siteResolution, readingSet, retained_outcomeOf] at retained
    have evidences := congrArg (List.map RustGraphResolutionCandidate.evidence) retained
    simp only [List.map_map] at evidences
    generalize bareEq :
      readingCandidates definitions sites occurrence (.bare path eligible) = bare at evidences ⊢
    generalize qualifiedEq : readingCandidates definitions sites occurrence
        (.qualified path sourceSlot .qualifiedSyntax eligible) = qualified at evidences ⊢
    have bareEmpty : bare.take limits.maxCandidatesPerSite = [] := by
      rw [List.eq_nil_iff_forall_not_mem]
      intro candidate member
      have shared : candidate.evidence ∈
            (qualified.take limits.maxCandidatesPerSite).map
              (RustGraphResolutionCandidate.evidence ∘ CandidateRef.owned) :=
        evidences ▸ List.mem_map_of_mem member
      obtain ⟨other, isOther, sameEvidence⟩ := List.mem_map.mp shared
      have otherMember := List.mem_of_mem_take isOther
      have bareMember := List.mem_of_mem_take member
      rw [← qualifiedEq] at otherMember
      rw [← bareEq] at bareMember
      refine evidence_of_mem_bare bareMember ?_
      rw [← sameEvidence]
      exact evidence_of_mem_qualified otherMember
    rw [bareEmpty, List.map_nil] at evidences
    exact ⟨take_eq_nil bareEmpty, take_eq_nil (List.map_eq_nil_iff.mp evidences.symm)⟩
  · rintro ⟨bareEmpty, qualifiedEmpty⟩
    simp only [readingSet, readingReason, bareEmpty, qualifiedEmpty]

theorem readingCandidates_eq_nil_iff {reading : TargetReading} :
    readingCandidates definitions sites occurrence reading = [] ↔
      ∀ definition ∈ definitions,
        readingEvidence definitions sites occurrence reading definition = none := by
  constructor
  · intro empty definition member
    by_contra found
    obtain ⟨evidence, isFound⟩ := Option.ne_none_iff_exists'.mp found
    have scannedMember : (⟨definition, evidence⟩ : CandidateRef) ∈
          readingCandidates definitions sites occurrence reading :=
      mem_scanned.mpr ⟨member, isFound⟩
    rw [empty] at scannedMember
    cases scannedMember
  · intro nothing
    rw [List.eq_nil_iff_forall_not_mem]
    intro candidate member
    obtain ⟨isDefinition, isFound⟩ := mem_scanned.mp member
    rw [nothing _ isDefinition] at isFound
    cases isFound

theorem rootedTargetUnmatched_iff {parsed : ParsedPath}
    (rooted : rootedTarget occurrence = some (parsed, eligible)) :
    RootedTargetUnmatched definitions sites occurrence ↔
      readingCandidates definitions sites occurrence (.bare parsed.path eligible) = [] ∧
        readingCandidates definitions sites occurrence
            (.qualified parsed.path (slotFilter parsed.sameSlot occurrence.sourceSlot)
              .qualifiedSyntax eligible) = [] := by
  rw [readingCandidates_eq_nil_iff, readingCandidates_eq_nil_iff]
  constructor
  · intro unmatched
    have nothing := unmatched parsed eligible rooted
    constructor
    · intro definition member
      obtain ⟨_, noSyntax, noName⟩ := nothing definition member
      simp only [matchesSyntax, Bool.or_eq_false_iff] at noSyntax
      simp [readingEvidence, noSyntax.1, noSyntax.2, matchesName, noName]
    · intro definition member
      simp [readingEvidence, (nothing definition member).1]
  · rintro ⟨bareNothing, qualifiedNothing⟩ parsed' eligible' rooted' definition member
    rw [rooted] at rooted'
    cases rooted'
    have qualified := qualifiedNothing definition member
    have noSyntax : ∀ other ∈ definitions,
          matchesSyntax definitions sites occurrence parsed.path eligible other = false := by
      intro other isOther
      have bare := bareNothing other isOther
      simp only [readingEvidence] at bare
      split at bare
      · cases bare
      · split at bare
        · cases bare
        · simp_all [matchesSyntax]
    have bare := bareNothing definition member
    have syntaxHere := noSyntax definition member
    have connected :
        definitions.any (matchesSyntax definitions sites occurrence parsed.path eligible) = false :=
      List.any_eq_false.mpr fun other isOther => by simp [noSyntax other isOther]
    refine ⟨?_, syntaxHere, ?_⟩
    · simpa [readingEvidence] using qualified
    · simp only [matchesSyntax, Bool.or_eq_false_iff] at syntaxHere
      simpa [readingEvidence, syntaxHere.1, syntaxHere.2, matchesName, connected] using bare

/-- Engine and rule agree on a site exactly when its rooted name is idle. -/
theorem engineResolution_eq_iff : engineResolution definitions sites limits occurrence =
        declaredResolution definitions sites occurrence limits ↔
      RootedTargetUnmatched definitions sites occurrence := by
  unfold engineResolution declaredResolution
  cases rooted : rootedTarget occurrence with
  | none =>
    rw [readings_agree rooted]
    refine iff_of_true rfl ?_
    intro parsed eligible isRooted
    rw [rooted] at isRooted
    cases isRooted
  | some target =>
    obtain ⟨parsed, eligible⟩ := target
    obtain ⟨declared, engine⟩ := readings_of_rooted rooted
    rw [declared, engine, siteResolution_eq_iff, rootedTargetUnmatched_iff rooted]

/--
A successful run follows the rule on every site exactly when no name spelled
with a leading `crate::` or `::` matches a definition.
-/
theorem resolution_follows_rule_iff {resolution : RustGraphResolution}
    (resolved :
      (resolveRustGraphSites definitions sites limits).observe Polled.never = .ok resolution) :
    resolution.outcomes =
        (sortBy siteOrdering sites).map
          (fun occurrence => declaredResolution definitions sites occurrence limits) ↔
      ∀ occurrence ∈ sites, RootedTargetUnmatched definitions sites occurrence := by
  rw [Polled.observe_never] at resolved
  obtain ⟨_, outcomes⟩ := resolution_outcomes resolved
  rw [outcomes, List.map_inj_left]
  simp only [(sortBy_perm siteOrdering sites).mem_iff, engineResolution_eq_iff]

/-- Without rooted spellings the run on two functions follows the rule. -/
theorem resolution_follows_rule_of_bare_call : ∃ resolution,
      (resolveRustGraphSites [root, nested] [bareCall]
          .default).observe Polled.never = .ok resolution ∧
        resolution.outcomes =
          (sortBy siteOrdering [bareCall]).map
            (fun occurrence =>
              declaredResolution [root, nested] [bareCall] occurrence .default) := by
  have succeeds : ((resolveRustGraphSites [root, nested] [bareCall]
        .default).observe Polled.never).toOption.isSome = true := by
    decide +kernel
  obtain ⟨resolution, isResolution⟩ := Option.isSome_iff_exists.mp succeeds
  have resolved := except_toOption_eq_some_iff.mp isResolution
  have unrooted : rootedTarget bareCall = none := by decide +kernel
  refine ⟨resolution, resolved, (resolution_follows_rule_iff resolved).mpr ?_⟩
  intro occurrence member parsed eligible rooted
  rw [List.mem_singleton.mp member, unrooted] at rooted
  cases rooted

/-- `crate::helper()` in `m::run` resolves to `m::helper`, not to `helper`. -/
theorem rooted_call_resolves_to_nested : ∃ resolution,
      (resolveRustGraphSites [root, nested] [rootedCall]
          .default).observe Polled.never = .ok resolution ∧
        resolution.outcomes.map (·.outcome) =
          [.unique ⟨nested.identity, .lexicalSyntax⟩] ∧
        (declaredResolution [root, nested] [rootedCall] rootedCall .default).outcome =
          .unique ⟨root.identity, .qualifiedSyntax⟩ := by
  have outcomes : ((resolveRustGraphSites [root, nested] [rootedCall]
          .default).observe Polled.never).toOption.map
            (fun resolution => resolution.outcomes.map (·.outcome)) =
        some [.unique ⟨nested.identity, .lexicalSyntax⟩] := by
    decide +kernel
  obtain ⟨resolution, isResolution, isOutcome⟩ := Option.map_eq_some_iff.mp outcomes
  have resolved := except_toOption_eq_some_iff.mp isResolution
  refine ⟨resolution, resolved, isOutcome, ?_⟩
  decide +kernel

end Agreement

end RepoWitness
