import RepoWitness.GraphResolutionScan

namespace RepoWitness

open Std
open Text

/-!
# Candidates of one site

Sorting candidates by definition and evidence and keeping the first of each
definition is a scan over all definitions for their strongest evidence.  With
the lookups of the indexes this gives the result of every branch of the
resolver, and so the candidates of a site under the engine's reading.
-/

section Candidates

variable {definitions : List RustGraphDefinitionOccurrence} {sites : List RustGraphSiteOccurrence}
  {limits : RustGraphResolutionLimits} {candidates : List CandidateRef}
  {evidence : RustGraphDefinitionOccurrence → Option RustGraphResolutionEvidence}

structure PicksLeast (definitions : List RustGraphDefinitionOccurrence)
    (candidates : List CandidateRef)
    (evidence : RustGraphDefinitionOccurrence → Option RustGraphResolutionEvidence) : Prop where
  within : ∀ candidate ∈ candidates, candidate.definition ∈ definitions
  picked : ∀ definition ∈ definitions, ∀ picked,
      evidence definition = some picked → ⟨definition, picked⟩ ∈ candidates
  least : ∀ candidate ∈ candidates, ∃ picked,
      evidence candidate.definition = some picked ∧ (compare picked candidate.evidence).isLE = true

instance : TransCmp candidateOrdering := inferInstanceAs (TransCmp (compareLex _ _))

def scanned (definitions : List RustGraphDefinitionOccurrence)
    (evidence :
      RustGraphDefinitionOccurrence → Option RustGraphResolutionEvidence) : List CandidateRef :=
  (sortBy definitionOrdering definitions).filterMap fun definition =>
    (evidence definition).map fun picked => ⟨definition, picked⟩

theorem mem_scanned {candidate : CandidateRef} :
    candidate ∈ scanned definitions evidence ↔
      candidate.definition ∈ definitions ∧
        evidence candidate.definition = some candidate.evidence := by
  have arranged := sortBy_perm definitionOrdering definitions
  simp only [scanned, List.mem_filterMap, arranged.mem_iff, Option.map_eq_some_iff]
  constructor
  · rintro ⟨definition, member, picked, isPicked, rfl⟩
    exact ⟨member, isPicked⟩
  · rintro ⟨member, isPicked⟩
    exact ⟨candidate.definition, member, candidate.evidence, isPicked, rfl⟩

theorem scanned_increasing (admissible : Admissible definitions sites limits) :
    (scanned definitions evidence).Pairwise (compareOn CandidateRef.definition · · = .lt) := by
  refine List.Pairwise.filterMap _ ?_ admissible.definitions_increasing
  intro left right less leftCandidate isLeft rightCandidate isRight
  obtain ⟨_, _, rfl⟩ := Option.map_eq_some_iff.mp isLeft
  obtain ⟨_, _, rfl⟩ := Option.map_eq_some_iff.mp isRight
  exact less

/--
Sorting the candidates and keeping the first of each definition is the scan
over all definitions for their strongest evidence.
-/
theorem finishCandidates_result (admissible : Admissible definitions sites limits)
    (picks : PicksLeast definitions candidates evidence) (reason : RustGraphUnresolvedReason) :
    (finishCandidates candidates reason).result =
      .ok { candidates := scanned definitions evidence, unresolvedReason := reason } := by
  have sorted := sortBy_sorted candidateOrdering candidates
  have arranged := sortBy_perm candidateOrdering candidates
  have distinct : KeysDistinct CandidateRef.definition (sortBy candidateOrdering candidates) := by
    intro left isLeft right isRight tied
    exact admissible.definition_eq_of_tied (picks.within left (arranged.mem_iff.mp isLeft))
      (picks.within right (arranged.mem_iff.mp isRight)) tied
  have increasing : (firstOfRuns CandidateRef.definition none
        (sortBy candidateOrdering candidates)).Pairwise
          (compareOn CandidateRef.definition · · = .lt) :=
    firstOfRuns_increasing sorted distinct
  have sameCandidates :
      firstOfRuns CandidateRef.definition none (sortBy candidateOrdering candidates) =
        scanned definitions evidence := by
    refine eq_of_strictlyIncreasing increasing (scanned_increasing admissible) ?_
    intro candidate
    rw [mem_scanned]
    constructor
    · intro kept
      have member := arranged.mem_iff.mp ((firstOfRuns_sublist _ _).subset kept)
      have isDefinition := picks.within candidate member
      refine ⟨isDefinition, ?_⟩
      obtain ⟨picked, isPicked, stronger⟩ := picks.least candidate member
      have pickedMember := picks.picked candidate.definition isDefinition picked isPicked
      have weaker := firstOfRuns_least sorted distinct kept (arranged.mem_iff.mpr pickedMember) rfl
      rw [isPicked]
      exact congrArg some (LawfulEqOrd.eq_of_compare (OrientedCmp.isLE_antisymm stronger weaker))
    · rintro ⟨isDefinition, isPicked⟩
      have member : candidate ∈ sortBy candidateOrdering candidates :=
        arranged.mem_iff.mpr (picks.picked _ isDefinition _ isPicked)
      rcases @firstOfRuns_covers _ _ _ CandidateRef.definition none _ _
        member with continues | ⟨kept, isKept, sameDefinition⟩
      · cases continues
      · -- The kept element of this definition also has least evidence.
        have keptMember := arranged.mem_iff.mp ((firstOfRuns_sublist _ _).subset isKept)
        obtain ⟨picked, keptPicked, stronger⟩ := picks.least kept keptMember
        have weaker := firstOfRuns_least sorted distinct isKept member sameDefinition.symm
        rw [sameDefinition, isPicked] at keptPicked
        cases keptPicked
        have sameEvidence := LawfulEqOrd.eq_of_compare (OrientedCmp.isLE_antisymm stronger weaker)
        cases kept
        cases candidate
        cases sameDefinition
        cases sameEvidence
        exact isKept
  simp only [finishCandidates, Polled.result_bind, Polled.result_poll,
    except_ok_bind, Polled.result_pure, sameCandidates]

end Candidates

/-! ## One site -/

section Sites

variable {definitions : List RustGraphDefinitionOccurrence} {sites : List RustGraphSiteOccurrence}
  {limits : RustGraphResolutionLimits} {index : DefinitionIndex} {imports : ImportIndex}

theorem picksLeast_selected (holds : RustGraphDefinitionOccurrence → Bool)
    (evidence : RustGraphResolutionEvidence) :
    PicksLeast definitions (selected definitions holds evidence)
      fun definition => if holds definition then some evidence else none where
  within candidate member := (mem_selected.mp member).1
  picked definition isDefinition picked isPicked := by
    split at isPicked
    case isTrue isSelected =>
        cases isPicked
        exact mem_selected.mpr ⟨isDefinition, isSelected, rfl⟩
    case isFalse => cases isPicked
  least candidate member := by
    obtain ⟨_, isSelected, sameEvidence⟩ := mem_selected.mp member
    refine ⟨evidence, if_pos isSelected, ?_⟩
    rw [sameEvidence, @ReflCmp.compare_self _ compare]
    rfl

section BareNames

variable (occurrence : RustGraphSiteOccurrence) (name : Text) (eligible : EligibleDefinitions)

variable {matched : List CandidateRef}

theorem syntaxMatches_isEmpty
    (imported : ∀ candidate, candidate ∈ matched ↔ candidate ∈
            selected definitions (matchesImport definitions sites occurrence name eligible)
              .importSyntax) :
    (selected definitions (matchesLexical definitions occurrence name eligible)
        .lexicalSyntax ++ matched).isEmpty =
      !definitions.any (matchesSyntax definitions sites occurrence name eligible) := by
  have alike : matched.isEmpty =
        (selected definitions (matchesImport definitions sites occurrence name eligible)
          .importSyntax).isEmpty := by
    rw [Bool.eq_iff_iff, List.isEmpty_iff, List.isEmpty_iff]
    simp only [List.eq_nil_iff_forall_not_mem, imported]
  have joined : ∀ left right : List CandidateRef,
        (left ++ right).isEmpty = (left.isEmpty && right.isEmpty) := by
    intro left right
    cases left <;> rfl
  rw [joined, alike, selected_isEmpty, selected_isEmpty, ← Bool.not_or]
  congr 1
  rw [Bool.eq_iff_iff]
  simp only [Bool.or_eq_true, List.any_eq_true, matchesSyntax, and_or_left, exists_or]

theorem picksLeast_connected
    (imported : ∀ candidate, candidate ∈ matched ↔ candidate ∈
            selected definitions (matchesImport definitions sites occurrence name eligible)
              .importSyntax)
    (connected :
      definitions.any (matchesSyntax definitions sites occurrence name eligible) = true) :
    PicksLeast definitions
      (selected definitions (matchesLexical definitions occurrence name eligible)
          .lexicalSyntax ++ matched)
      (readingEvidence definitions sites occurrence (.bare name eligible)) where
  within candidate member := by
    rcases List.mem_append.mp member with lexical | isImported
    · exact (mem_selected.mp lexical).1
    · exact (mem_selected.mp ((imported candidate).mp isImported)).1
  picked definition isDefinition picked isPicked := by
    rw [List.mem_append, imported, mem_selected, mem_selected]
    simp only [readingEvidence] at isPicked
    split at isPicked
    case isTrue lexical =>
        cases isPicked
        exact Or.inl ⟨isDefinition, lexical, rfl⟩
    case isFalse =>
        split at isPicked
        case isTrue isImported =>
            cases isPicked
            exact Or.inr ⟨isDefinition, isImported, rfl⟩
        case isFalse => simp [matchesName, connected] at isPicked
  least candidate member := by
    rw [List.mem_append, imported, mem_selected, mem_selected] at member
    simp only [readingEvidence]
    by_cases lexical :
        matchesLexical definitions occurrence name eligible candidate.definition = true
    · refine ⟨.lexicalSyntax, if_pos lexical, ?_⟩
      rcases member with ⟨_, _, same⟩ | ⟨_, _, same⟩ <;> rw [same] <;> decide
    · rcases member with ⟨_, matches', _⟩ | ⟨_, isImported, same⟩
      · exact absurd matches' lexical
      · refine ⟨.importSyntax, ?_, ?_⟩
        · rw [if_neg lexical, if_pos isImported]
        · rw [same]
          decide

/-- Without a syntactic match, the candidates are those of the simple name. -/
theorem picksLeast_unconnected
    (unconnected :
      definitions.any (matchesSyntax definitions sites occurrence name eligible) = false) :
    PicksLeast definitions
      (selected definitions
        (fun definition =>
          definition.fact.name == name && isEligible definition eligible) .exactNameHeuristic)
      (readingEvidence definitions sites occurrence (.bare name eligible)) := by
  have unmatched : ∀ definition ∈ definitions,
        matchesLexical definitions occurrence name eligible definition = false ∧
          matchesImport definitions sites occurrence name eligible definition = false := by
    intro definition member
    have neither := List.any_eq_false.mp unconnected definition member
    simpa [matchesSyntax] using neither
  have named : ∀ definition ∈ definitions,
        readingEvidence definitions sites occurrence (.bare name eligible) definition =
          if (definition.fact.name == name &&
              isEligible definition eligible) = true then
            some .exactNameHeuristic
          else
            none := by
    intro definition member
    obtain ⟨notLexical, notImported⟩ := unmatched definition member
    simp [readingEvidence, notLexical, notImported, matchesName, unconnected]
  have picks := @picksLeast_selected definitions
      (fun definition => definition.fact.name == name && isEligible definition eligible)
      .exactNameHeuristic
  refine ⟨picks.within, ?_, ?_⟩
  · intro definition member picked isPicked
    rw [named definition member] at isPicked
    exact picks.picked definition member picked isPicked
  · intro candidate member
    rw [named candidate.definition (picks.within candidate member)]
    exact picks.least candidate member

end BareNames

/-- The reason of a reading before methods are considered. -/
def plainReason (reading : TargetReading) : RustGraphUnresolvedReason :=
  match reading with
  | .unsupported reason => reason
  | _ => .noCandidate

theorem readingCandidates_unsupported (occurrence : RustGraphSiteOccurrence)
    (reason : RustGraphUnresolvedReason) :
    readingCandidates definitions sites occurrence (.unsupported reason) = [] := by
  simp [readingCandidates, readingEvidence]

variable (admissible : Admissible definitions sites limits)
  (indexed : IndexesDefinitions (sortBy definitionOrdering definitions) index)
  (imported : IndexesImports sites imports) (occurrence : RustGraphSiteOccurrence)

include admissible indexed

/-- A qualified lookup ends in the scan of its reading. -/
theorem qualifiedLookup_result (path : Text) (sourceSlot : Option Bytes32)
    (evidence : RustGraphResolutionEvidence) (eligible : EligibleDefinitions) :
    ((addQualifiedMatches [] path sourceSlot evidence eligible index >>=
        fun candidates => finishCandidates candidates .noCandidate)).result =
      .ok
        { candidates :=
            readingCandidates definitions sites occurrence
              (.qualified path sourceSlot evidence eligible)
          unresolvedReason := .noCandidate } := by
  rw [Polled.result_bind, addQualifiedMatches_result eligible indexed,
    except_ok_bind, List.nil_append]
  exact finishCandidates_result admissible (picksLeast_selected _ evidence) .noCandidate

include imported

theorem resolveReferenceTarget_result (target : Text) (eligible : EligibleDefinitions) :
    (resolveReferenceTarget occurrence target eligible index imports).result =
      .ok
        { candidates :=
            readingCandidates definitions sites occurrence
              (pathReading (fun _ parsed => !parsed.bare) occurrence target eligible)
          unresolvedReason := plainReason
              (pathReading (fun _ parsed => !parsed.bare) occurrence target eligible) } := by
  unfold resolveReferenceTarget pathReading
  cases isParsed : parsePath target with
  | none => simp [readingCandidates_unsupported, plainReason, CandidateSet.abstain]
  | some parsed =>
    cases single : parsed.bare with
    | false =>
      simpa [plainReason, single] using
        qualifiedLookup_result admissible indexed occurrence parsed.path
          (slotFilter parsed.sameSlot occurrence.sourceSlot)
          .qualifiedSyntax eligible
    | true =>
      obtain ⟨matched, ran, isImported⟩ :=
        importMatches_result occurrence parsed.path eligible indexed imported
          (selected definitions
            (matchesLexical definitions occurrence parsed.path eligible) .lexicalSyntax)
      have empty := syntaxMatches_isEmpty occurrence parsed.path eligible isImported
      simp only [single, if_true, Polled.result_bind,
        lexicalMatches_result occurrence parsed.path eligible indexed,
        except_ok_bind, ran, empty, Bool.not_true,
        Bool.false_eq_true, if_false, plainReason]
      cases connected :
          definitions.any (matchesSyntax definitions sites occurrence parsed.path eligible) with
      | true =>
        exact finishCandidates_result admissible
          (picksLeast_connected occurrence parsed.path eligible
            isImported connected) .noCandidate
      | false =>
        have none : selected definitions
                (matchesLexical definitions occurrence parsed.path
                  eligible) .lexicalSyntax ++ matched = [] := by
          rw [connected] at empty
          exact List.isEmpty_iff.mp empty
        rw [none]
        simp only [Bool.not_false, if_true, Polled.result_bind,
          addNameMatches_result parsed.path eligible indexed,
          except_ok_bind, List.nil_append]
        exact finishCandidates_result admissible
          (picksLeast_unconnected occurrence parsed.path eligible connected) .noCandidate

omit admissible imported in
theorem exactMethodCandidateExists_result (target : Text) :
    (exactMethodCandidateExists occurrence target index).result = .ok (match parsePath target with
        | none => false
        | some parsed => definitions.any (methodMatches occurrence parsed)) := by
  have arranged := sortBy_perm definitionOrdering definitions
  unfold exactMethodCandidateExists
  cases parsePath target with
  | none => rfl
  | some parsed =>
    simp only [anyMatch_result, indexed.qualified, indexed.named]
    unfold methodMatches
    cases parsed.bare with
    | false => simp [List.any_filter, arranged.any_eq]
    | true => simp [List.any_filter, arranged.any_eq]

omit admissible indexed imported in
/-- A spelling that is no supported path calls no method. -/
theorem callsMethod_of_unsupported (definitions : List RustGraphDefinitionOccurrence)
    {occurrence : RustGraphSiteOccurrence} {isQualified : Text → ParsedPath → Bool}
    {eligible : EligibleDefinitions} {reason : RustGraphUnresolvedReason}
    (reading :
      pathReading isQualified occurrence (calledTarget occurrence.site.rawTarget) eligible =
        .unsupported reason) :
    callsMethod definitions occurrence = false := by
  unfold pathReading at reading
  unfold callsMethod
  cases isParsed : parsePath (calledTarget occurrence.site.rawTarget) with
  | none => simp
  | some parsed =>
    simp only [isParsed] at reading
    split at reading <;> cases reading

omit admissible indexed imported in
theorem abstainForMethods_result {occurrence : RustGraphSiteOccurrence} {target : Text}
    {method : Bool}
    (calls : (exactMethodCandidateExists occurrence target index).result = .ok method)
    (resolved : CandidateSet) :
    (abstainForMethods occurrence target index resolved).result = .ok
        { resolved with
          unresolvedReason :=
            if resolved.candidates = [] ∧ method = true then
              .dynamicOrMethodCall
            else
              resolved.unresolvedReason } := by
  unfold abstainForMethods
  cases none : resolved.candidates.isEmpty with
  | false =>
    have some : resolved.candidates ≠ [] := by
      rintro empty
      simp [empty] at none
    simp [some]
  | true =>
    rw [List.isEmpty_iff] at none
    cases method with
    | true => simp [calls, none]
    | false => simp [calls]

theorem resolveSite_result : (resolveSite occurrence index imports).result = .ok
        (readingSet definitions sites occurrence (engineReading occurrence)) := by
  unfold resolveSite engineReading siteReading readingSet readingReason
  cases kind : occurrence.site.kind with
  | macroCall => simp [readingCandidates_unsupported, CandidateSet.abstain]
  | testMarker => simp [readingCandidates_unsupported, CandidateSet.abstain]
  | importSite =>
    unfold resolveImport
    cases parseImport occurrence.site.rawTarget with
    | none => simp [readingCandidates_unsupported, CandidateSet.abstain]
    | some parsed =>
      simpa [callsMethod, kind] using
        qualifiedLookup_result admissible indexed occurrence parsed.target
          (slotFilter parsed.sameSlot occurrence.sourceSlot)
          .importSyntax .any
  | reference =>
    simp only [resolveReference,
      resolveReferenceTarget_result admissible indexed imported,
      plainReason, callsMethod, kind]
    cases pathReading (fun _ parsed => !parsed.bare) occurrence
        occurrence.site.rawTarget .any with
    | unsupported reason => rfl
    | qualified path sourceSlot evidence eligible => simp
    | bare name eligible => simp
  | call =>
    unfold resolveCall
    cases dynamic : isDynamicCall occurrence.site.rawTarget with
    | true => simp [readingCandidates_unsupported, CandidateSet.abstain]
    | false =>
      simp only [Bool.false_eq_true, if_false, Polled.result_bind,
        resolveReferenceTarget_result admissible indexed imported,
        except_ok_bind]
      have calls :
          (exactMethodCandidateExists occurrence (calledTarget occurrence.site.rawTarget)
              index).result =
            .ok (callsMethod definitions occurrence) := by
        rw [exactMethodCandidateExists_result indexed]
        unfold callsMethod
        cases parsePath (calledTarget occurrence.site.rawTarget) <;> simp [kind]
      rw [abstainForMethods_result calls]
      cases reading : pathReading (fun _ parsed => !parsed.bare) occurrence
            (calledTarget occurrence.site.rawTarget)
            .freeFunctions with
      | unsupported reason =>
        have noMethod := callsMethod_of_unsupported definitions reading
        simp [plainReason, noMethod]
      | qualified path sourceSlot evidence eligible => rfl
      | bare name eligible => rfl

end Sites

end RepoWitness
