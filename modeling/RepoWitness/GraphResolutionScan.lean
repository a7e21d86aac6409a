import RepoWitness.GraphResolutionRule

namespace RepoWitness

open Std
open Text

/-!
# The engine evaluates the scan

The two definition indexes and the import index answer lookups with filters of
their input, the scope walks find what a search over all definitions finds, and
sorting with adjacent deduplication leaves every matched definition once, with
its strongest evidence.  So the engine resolves a site to what its reading of
the target says.
-/

/-! ## Indexes -/

structure IndexesDefinitions (order : List RustGraphDefinitionOccurrence)
    (index : DefinitionIndex) : Prop where
  qualified : ∀ name, index.byQualified.getD name [] = order.filter (·.fact.qualifiedName == name)
  named : ∀ name, index.byName.getD name [] = order.filter (·.fact.name == name)

theorem getD_pushAll (key : RustGraphDefinitionOccurrence → Text)
    (order : List RustGraphDefinitionOccurrence) (name : Text) :
    ((order.map fun definition => (key definition, definition)).foldl pushEntry ∅).getD name [] =
      order.filter (key · == name) := by
  rw [getD_foldl_pushEntry]
  simp only [TreeMap.getD_emptyc, List.nil_append, List.filter_map, List.map_map]
  simp [Function.comp_def, beq_eq_decide]

theorem buildDefinitionIndexFrom_result (order : List RustGraphDefinitionOccurrence)
    (index : DefinitionIndex) :
    (buildDefinitionIndexFrom index order).result = .ok
        { byQualified :=
            (order.map fun definition =>
              (definition.fact.qualifiedName, definition)).foldl pushEntry index.byQualified
          byName :=
            (order.map fun definition =>
              (definition.fact.name, definition)).foldl pushEntry index.byName } := by
  induction order generalizing index with
  | nil => rfl
  | cons definition rest hypothesis =>
    simp only [buildDefinitionIndexFrom, Polled.result_bind,
      Polled.result_poll, except_ok_bind, hypothesis]
    rfl

theorem buildDefinitionIndex_indexes (order : List RustGraphDefinitionOccurrence) :
    ∃ index, (buildDefinitionIndex order).result = .ok index ∧ IndexesDefinitions order index := by
  refine ⟨_, buildDefinitionIndexFrom_result order .empty, ?_, ?_⟩
  · exact getD_pushAll (·.fact.qualifiedName) order
  · exact getD_pushAll (·.fact.name) order

/-- The import index answers with the bindings of the file's import sites. -/
def IndexesImports (sites : List RustGraphSiteOccurrence) (imports : ImportIndex) : Prop :=
  ∀ key binding, binding ∈ imports.getD key [] ↔
      ∃ importing ∈ sites, importBinding importing = some (key, binding)

theorem collectImports_result (sites : List RustGraphSiteOccurrence) (imports : ImportIndex) :
    (collectImports imports sites).result =
      .ok ((sites.filterMap importBinding).foldl pushEntry imports) := by
  induction sites generalizing imports with
  | nil => rfl
  | cons occurrence rest hypothesis =>
    simp only [collectImports, Polled.result_bind, Polled.result_poll, except_ok_bind]
    cases binds : importBinding occurrence with
    | none => simp [hypothesis, binds]
    | some entry => simp [hypothesis, binds]

theorem mem_tidyBindings {bindings : List ImportBinding} {binding : ImportBinding} :
    binding ∈ tidyBindings bindings ↔ binding ∈ bindings := by
  unfold tidyBindings
  rw [mem_firstOfRuns_id]
  exact (sortBy_perm bindingOrdering bindings).mem_iff

theorem buildImportIndex_indexes (sites : List RustGraphSiteOccurrence) :
    ∃ imports, (buildImportIndex sites).result = .ok imports ∧ IndexesImports sites imports := by
  refine ⟨((sites.filterMap importBinding).foldl pushEntry ∅).map
    fun _ bindings => tidyBindings bindings, ?_, ?_⟩
  · simp only [buildImportIndex, Polled.result_bind,
      collectImports_result, Polled.result_pollTimes,
      Polled.result_poll, Polled.result_pure, except_ok_bind]
  · intro key binding
    have bucket := getD_foldl_pushEntry (sites.filterMap importBinding) (∅ : ImportIndex) key
    rw [TreeMap.getD_emptyc, List.nil_append] at bucket
    have tidied : binding ∈ (((sites.filterMap importBinding).foldl pushEntry
              (∅ : ImportIndex)).map fun _ bindings => tidyBindings bindings).getD key [] ↔
          binding ∈
            ((sites.filterMap importBinding).foldl pushEntry (∅ : ImportIndex)).getD key [] := by
      rw [TreeMap.getD_eq_getD_getElem?, TreeMap.getElem?_map, TreeMap.getD_eq_getD_getElem?]
      cases ((sites.filterMap importBinding).foldl pushEntry (∅ : ImportIndex))[key]? with
      | none => rfl
      | some bindings => exact mem_tidyBindings
    rw [tidied, bucket]
    simp only [List.mem_map, List.mem_filter, List.mem_filterMap,
      decide_eq_true_eq, Prod.exists, exists_eq_right]

/-! ## Lookups -/

theorem addMatches_result (admitted : RustGraphDefinitionOccurrence → Bool)
    (evidence : RustGraphResolutionEvidence) (candidates : List CandidateRef)
    (bucket : List RustGraphDefinitionOccurrence) :
    (addMatches admitted evidence candidates bucket).result = .ok
        (candidates ++ (bucket.filter admitted).map fun definition => ⟨definition, evidence⟩) := by
  induction bucket generalizing candidates with
  | nil => simp [addMatches]
  | cons definition rest hypothesis =>
    simp only [addMatches, Polled.result_bind, Polled.result_poll, except_ok_bind]
    by_cases isAdmitted : admitted definition = true
    · simp [isAdmitted, hypothesis]
    · simp [isAdmitted, hypothesis]

theorem anyMatch_result (holds : RustGraphDefinitionOccurrence → Bool)
    (bucket : List RustGraphDefinitionOccurrence) :
    (anyMatch holds bucket).result = .ok (bucket.any holds) := by
  induction bucket with
  | nil => rfl
  | cons definition rest hypothesis =>
    simp only [anyMatch, Polled.result_bind, Polled.result_poll, except_ok_bind, List.any_cons]
    cases holds definition with
    | true => rfl
    | false => simpa using hypothesis

section Lookups

variable {definitions : List RustGraphDefinitionOccurrence} {sites : List RustGraphSiteOccurrence}
  {limits : RustGraphResolutionLimits} {index : DefinitionIndex} {imports : ImportIndex}
  (occurrence : RustGraphSiteOccurrence) (name : Text) (eligible : EligibleDefinitions)

def selected (definitions : List RustGraphDefinitionOccurrence)
    (holds : RustGraphDefinitionOccurrence → Bool)
    (evidence : RustGraphResolutionEvidence) : List CandidateRef :=
  ((sortBy definitionOrdering definitions).filter holds).map
    fun definition => ⟨definition, evidence⟩

theorem mem_selected {holds : RustGraphDefinitionOccurrence → Bool}
    {evidence : RustGraphResolutionEvidence} {candidate : CandidateRef} :
    candidate ∈ selected definitions holds evidence ↔
      candidate.definition ∈ definitions ∧
        holds candidate.definition = true ∧
        candidate.evidence = evidence := by
  have arranged := sortBy_perm definitionOrdering definitions
  simp only [selected, List.mem_map, List.mem_filter, arranged.mem_iff]
  constructor
  · rintro ⟨definition, ⟨member, isSelected⟩, rfl⟩
    exact ⟨member, isSelected, rfl⟩
  · rintro ⟨member, isSelected, rfl⟩
    exact ⟨candidate.definition, ⟨member, isSelected⟩, rfl⟩

theorem selected_isEmpty (holds : RustGraphDefinitionOccurrence → Bool)
    (evidence : RustGraphResolutionEvidence) :
    (selected definitions holds evidence).isEmpty = !definitions.any holds := by
  have arranged := sortBy_perm definitionOrdering definitions
  rw [← arranged.any_eq]
  rw [Bool.eq_iff_iff]
  simp [selected, List.filter_eq_nil_iff]

variable (indexed : IndexesDefinitions (sortBy definitionOrdering definitions) index)

include indexed

theorem addQualifiedMatches_result (candidates : List CandidateRef) (qualifiedName : Text)
    (sourceSlot : Option Bytes32) (evidence : RustGraphResolutionEvidence) :
    (addQualifiedMatches candidates qualifiedName sourceSlot evidence eligible index).result =
      .ok
        (candidates ++
          selected definitions (matchesQualified qualifiedName sourceSlot eligible) evidence) := by
  unfold addQualifiedMatches selected
  rw [addMatches_result, indexed.qualified, List.filter_filter]
  simp only [Bool.and_comm (_ && _)]
  rfl

theorem addNameMatches_result (candidates : List CandidateRef)
    (evidence : RustGraphResolutionEvidence) :
    (addNameMatches candidates name evidence eligible index).result = .ok
        (candidates ++ selected definitions
            (fun definition =>
              definition.fact.name == name && isEligible definition eligible) evidence) := by
  unfold addNameMatches selected
  rw [addMatches_result, indexed.named, List.filter_filter]
  simp only [Bool.and_comm (isEligible _ _)]

/-- The walk stops at the nearest scope that has a match. -/
theorem lexicalMatchesFrom_result (scopes : List Text) :
    (lexicalMatchesFrom occurrence name eligible index scopes).result = .ok
        (selected definitions
          (matchesQualified
            (((scopes.map fun scope =>
                scope ++ separator ++ name).find? fun qualifiedName =>
              definitions.any
                (matchesQualified qualifiedName (some occurrence.sourceSlot) eligible)).getD name)
            (some occurrence.sourceSlot) eligible) .lexicalSyntax) := by
  induction scopes with
  | nil =>
    simp only [lexicalMatchesFrom, addQualifiedMatches_result _ indexed,
      List.nil_append, List.map_nil, List.find?_nil, Option.getD_none]
  | cons scope outer hypothesis =>
    simp only [lexicalMatchesFrom, Polled.result_bind,
      Polled.result_poll, except_ok_bind,
      addQualifiedMatches_result _ indexed, List.nil_append,
      selected_isEmpty, List.map_cons, List.find?_cons]
    cases definitions.any
        (matchesQualified (scope ++ separator ++ name) (some occurrence.sourceSlot) eligible) with
    | true => rfl
    | false => simpa using hypothesis

theorem lexicalMatches_result : (lexicalMatches occurrence name eligible index).result = .ok
        (selected definitions (matchesLexical definitions occurrence name eligible)
          .lexicalSyntax) :=
  lexicalMatchesFrom_result occurrence name eligible indexed (lexicalScopes occurrence)

theorem nearestModuleScope_result (scopes : List Text) :
    (nearestModuleScope occurrence index scopes).result = .ok
        (scopes.find? fun scope =>
          definitions.any fun definition =>
            definition.fact.qualifiedName == scope && isModuleOfFile occurrence definition) := by
  have arranged := sortBy_perm definitionOrdering definitions
  induction scopes with
  | nil => rfl
  | cons scope outer hypothesis =>
    simp only [nearestModuleScope, Polled.result_bind,
      Polled.result_poll, except_ok_bind, indexed.qualified,
      List.any_filter, arranged.any_eq, List.find?_cons]
    cases definitions.any fun definition =>
        definition.fact.qualifiedName == scope && isModuleOfFile occurrence definition with
    | true => rfl
    | false => simpa using hypothesis

theorem referenceModuleScope_result : (referenceModuleScope occurrence index).result =
      .ok (nearestModule definitions occurrence) := by
  unfold referenceModuleScope nearestModule
  cases occurrence.site.enclosingDefinition with
  | none => rfl
  | some enclosing =>
    by_cases isModule : enclosing.kind = .module
    · simp [isModule]
    · simp [isModule, nearestModuleScope_result occurrence indexed]

/-- The bindings of the loop, each with the definitions it names. -/
theorem addImportMatches_result (candidates : List CandidateRef) (bindings : List ImportBinding) :
    (addImportMatches occurrence eligible index candidates bindings).result =
      .ok
        (candidates ++
          bindings.flatMap fun binding =>
            selected definitions
              (matchesQualified binding.target (slotFilter binding.sameSlot occurrence.sourceSlot)
                eligible) .importSyntax) := by
  induction bindings generalizing candidates with
  | nil => simp [addImportMatches]
  | cons binding rest hypothesis =>
    simp only [addImportMatches, Polled.result_bind,
      Polled.result_poll, except_ok_bind,
      addQualifiedMatches_result _ indexed, hypothesis,
      List.flatMap_cons, List.append_assoc]

variable (imported : IndexesImports sites imports)

include imported

theorem importMatches_result (candidates : List CandidateRef) : ∃ matched,
      (importMatches occurrence name eligible index imports
          candidates).result = .ok (candidates ++ matched) ∧
        ∀ candidate, candidate ∈ matched ↔ candidate ∈ selected definitions
                (matchesImport definitions sites occurrence name eligible) .importSyntax := by
  refine ⟨((imports.getD (fileKey occurrence) []).filter fun binding =>
      binding.aliasName = name ∧
        binding.moduleScope = nearestModule definitions occurrence).flatMap fun binding =>
    selected definitions
      (matchesQualified binding.target (slotFilter binding.sameSlot occurrence.sourceSlot) eligible)
      .importSyntax, ?_, ?_⟩
  · unfold importMatches
    rw [TreeMap.getD_eq_getD_getElem?]
    cases imports[fileKey occurrence]? with
    | none => simp
    | some bindings =>
      simp only [Polled.result_bind, except_ok_bind,
        referenceModuleScope_result occurrence indexed,
        addImportMatches_result occurrence eligible indexed]
      rfl
  · intro candidate
    have bound := imported (fileKey occurrence)
    simp only [List.mem_flatMap, List.mem_filter, bound,
      decide_eq_true_eq, mem_selected, matchesImport, List.any_eq_true]
    constructor
    · rintro ⟨binding, ⟨⟨importing, member, binds⟩, rfl, sameScope⟩,
        isDefinition, isQualified, isImport⟩
      refine ⟨isDefinition, ⟨importing, member, ?_⟩, isImport⟩
      unfold importBinding at binds
      split at binds
      · cases binds
      case isFalse isImportSite =>
        simp only [Option.bind_eq_bind, Option.bind_eq_some_iff,
          Option.some.injEq, Prod.mk.injEq] at binds
        obtain ⟨parsed, isParsed, aliasName, named, moduleScope, inModule, sameFile, rfl⟩ := binds
        simp only at sameScope isQualified ⊢
        rw [isParsed]
        simp only [bindsName, Bool.and_eq_true, beq_iff_eq]
        refine ⟨⟨⟨⟨?_, sameFile⟩, named⟩, ?_⟩, isQualified⟩
        · exact not_not.mp isImportSite
        · rw [inModule, sameScope]
    · rintro ⟨isDefinition, ⟨importing, member, reaches⟩, isImport⟩
      cases isParsed : parseImport importing.site.rawTarget with
      | none => simp [isParsed] at reaches
      | some parsed =>
        simp only [isParsed, bindsName, Bool.and_eq_true, beq_iff_eq] at reaches
        obtain ⟨⟨⟨⟨isImportSite, sameFile⟩, named⟩, inModule⟩, isQualified⟩ := reaches
        refine ⟨⟨name, parsed.target, parsed.sameSlot,
          nearestModule definitions occurrence⟩,
          ⟨⟨importing, member, ?_⟩, rfl, rfl⟩, isDefinition,
          isQualified, isImport⟩
        simp [importBinding, isImportSite, isParsed, named, inModule, sameFile]

end Lookups

end RepoWitness
