import RepoWitness.GraphResolutionModel
import RepoWitness.PolledComputation

namespace RepoWitness

open Std
open Text

/-!
# The resolver engine

`resolve_rust_graph_sites` admits its input, indexes definitions and imports,
and resolves the sites one by one into a bounded output.  The definitions
follow the engine function by function.  An index vector is modelled by the
occurrences its entries address, and each loop by a recursion over what it
iterates; `check_control` is one poll.
-/

/-! ## Admission -/

def addText (limits : RustGraphResolutionLimits) (total bytes : Nat) :
    Except RustGraphResolutionError Nat :=
  if 2 ^ 64 ≤ total + bytes then
    .error .countOverflow
  else if limits.maxInputTextBytes < total + bytes then
    .error .inputTextLimitExceeded
  else
    .ok (total + bytes)

/-- Account for several texts in turn. -/
def addTexts (limits : RustGraphResolutionLimits) :
    Nat → List Nat → Except RustGraphResolutionError Nat
  | total, [] => .ok total
  | total, bytes :: rest => do
    let accounted ← addText limits total bytes
    addTexts limits accounted rest

def definitionTexts (definition : RustGraphDefinitionOccurrence) : List Nat :=
  [definition.path.bytes.length, byteLength definition.fact.name,
    byteLength definition.fact.qualifiedName]

def siteTexts (occurrence : RustGraphSiteOccurrence) : List Nat :=
  [occurrence.path.bytes.length, byteLength occurrence.site.rawTarget] ++
    match occurrence.site.enclosingDefinition with
    | none => []
    | some enclosing => [byteLength enclosing.name, byteLength enclosing.qualifiedName]

def sumDefinitionTexts (limits : RustGraphResolutionLimits) :
    Nat → List RustGraphDefinitionOccurrence → Polled RustGraphResolutionError Nat
  | total, [] => pure total
  | total, definition :: rest => do
    Polled.poll
    let accounted ← Polled.done (addTexts limits total (definitionTexts definition))
    sumDefinitionTexts limits accounted rest

/-- The accounting loop over the sites. -/
def sumSiteTexts (limits : RustGraphResolutionLimits) :
    Nat → List RustGraphSiteOccurrence → Polled RustGraphResolutionError Nat
  | total, [] => pure total
  | total, occurrence :: rest => do
    Polled.poll
    if occurrence.site.targetSpan.start < occurrence.site.occurrenceSpan.start ∨
        occurrence.site.occurrenceSpan.stop < occurrence.site.targetSpan.stop then
      Polled.fail .invalidOccurrence
    else
      let accounted ← Polled.done (addTexts limits total (siteTexts occurrence))
      sumSiteTexts limits accounted rest

/-- The loop over `windows(2)` that refuses two equal neighbours. -/
def rejectNeighbours {α : Type} (same : α → α → Bool) (error : RustGraphResolutionError) :
    List α → Polled RustGraphResolutionError Unit
  | first :: second :: rest => do
    Polled.poll
    if same first second then
      Polled.fail error
    else
      rejectNeighbours same error (second :: rest)
  | _ => pure ()

structure AdmittedInput where
  definitionOrder : List RustGraphDefinitionOccurrence
  siteOrder : List RustGraphSiteOccurrence
  inputTextBytes : Nat

def admitInputs (definitions : List RustGraphDefinitionOccurrence)
    (sites : List RustGraphSiteOccurrence) (limits : RustGraphResolutionLimits) :
    Polled RustGraphResolutionError AdmittedInput :=
  if limits.maxDefinitions < definitions.length then
    Polled.fail .definitionLimitExceeded
  else if limits.maxSites < sites.length then
    Polled.fail .siteLimitExceeded
  else do
    let definitionBytes ← sumDefinitionTexts limits 0 definitions
    let textBytes ← sumSiteTexts limits definitionBytes sites
    rejectNeighbours sameDefinitionIdentity .duplicateDefinition
      (sortBy definitionOrdering definitions)
    rejectNeighbours sameSiteIdentity .duplicateSite (sortBy siteOrdering sites)
    Polled.poll
    pure
      { definitionOrder := sortBy definitionOrdering definitions
        siteOrder := sortBy siteOrdering sites
        inputTextBytes := textBytes }

/-! ## Indexes -/

structure DefinitionIndex where
  byQualified : TreeMap Text (List RustGraphDefinitionOccurrence)
  byName : TreeMap Text (List RustGraphDefinitionOccurrence)

namespace DefinitionIndex

def empty : DefinitionIndex where
  byQualified := ∅
  byName := ∅

def add (index : DefinitionIndex) (definition : RustGraphDefinitionOccurrence) :
    DefinitionIndex where
  byQualified := pushEntry index.byQualified (definition.fact.qualifiedName, definition)
  byName := pushEntry index.byName (definition.fact.name, definition)

end DefinitionIndex

def buildDefinitionIndexFrom : DefinitionIndex → List RustGraphDefinitionOccurrence →
      Polled RustGraphResolutionError DefinitionIndex
  | index, [] => do
    Polled.poll
    pure index
  | index, definition :: rest => do
    Polled.poll
    buildDefinitionIndexFrom (index.add definition) rest

def buildDefinitionIndex (order : List RustGraphDefinitionOccurrence) :
    Polled RustGraphResolutionError DefinitionIndex := buildDefinitionIndexFrom .empty order

/-- The file a site belongs to. -/
structure FileKey where
  sourceSlot : Bytes32
  artifact : Bytes32
  path : RepositoryPath
  deriving DecidableEq

namespace FileKey

def cmp : FileKey → FileKey → Ordering :=
  compareLex (compareOn sourceSlot) <|
  compareLex (compareOn artifact) (compareOn path)

instance : Ord FileKey where
  compare := cmp

instance : TransOrd FileKey := inferInstanceAs (TransCmp (compareLex _ _))

instance : LawfulEqOrd FileKey where
  eq_of_compare {first second} same := by
    change cmp first second = .eq at same
    simp only [cmp, compareLex_eq_eq, compareOn, LawfulEqOrd.compare_eq_iff_eq] at same
    cases first
    cases second
    simp_all

end FileKey

def fileKey (occurrence : RustGraphSiteOccurrence) : FileKey where
  sourceSlot := occurrence.sourceSlot
  artifact := occurrence.artifact
  path := occurrence.path

/-- One name that an import brings into a module of a file. -/
structure ImportBinding where
  aliasName : Text
  target : Text
  sameSlot : Bool
  moduleScope : Option Text
  deriving DecidableEq

def bindingOrdering : ImportBinding → ImportBinding → Ordering :=
  compareLex (compareOn (·.aliasName)) <|
  compareLex (compareOn (·.target)) <|
  compareLex (compareOn (·.sameSlot)) (compareOn (·.moduleScope))

/-- The module an import binds in, unless another declaration encloses it. -/
def importModuleScope (occurrence : RustGraphSiteOccurrence) : Option (Option Text) :=
  match occurrence.site.enclosingDefinition with
  | none => some none
  | some enclosing =>
    if enclosing.kind = .module then
      some (some enclosing.qualifiedName)
    else
      none

def importBinding (occurrence : RustGraphSiteOccurrence) : Option (FileKey × ImportBinding) :=
  if occurrence.site.kind ≠ .importSite then
    none
  else do
    let parsed ← parseImport occurrence.site.rawTarget
    let aliasName ← parsed.aliasName
    let moduleScope ← importModuleScope occurrence
    some (fileKey occurrence,
        { aliasName := aliasName, target := parsed.target, sameSlot := parsed.sameSlot
          moduleScope := moduleScope })

abbrev ImportIndex := TreeMap FileKey (List ImportBinding)

def collectImports : ImportIndex → List RustGraphSiteOccurrence →
      Polled RustGraphResolutionError ImportIndex
  | imports, [] => pure imports
  | imports, occurrence :: rest => do
    Polled.poll
    match importBinding occurrence with
    | none => collectImports imports rest
    | some entry => collectImports (pushEntry imports entry) rest

/-- Sort the bindings of one file and drop repeats. -/
def tidyBindings (bindings : List ImportBinding) : List ImportBinding :=
  firstOfRuns id none (sortBy bindingOrdering bindings)

def buildImportIndex (order : List RustGraphSiteOccurrence) :
    Polled RustGraphResolutionError ImportIndex := do
  let imports ← collectImports ∅ order
  Polled.pollTimes imports.size
  Polled.poll
  pure (imports.map fun _ bindings => tidyBindings bindings)

/-! ## Candidates -/

structure CandidateRef where
  definition : RustGraphDefinitionOccurrence
  evidence : RustGraphResolutionEvidence
  deriving DecidableEq

inductive EligibleDefinitions where
  | any
  | freeFunctions
  deriving DecidableEq

def isEligible (definition : RustGraphDefinitionOccurrence)
    (eligible : EligibleDefinitions) : Bool :=
  match eligible with
  | .any => true
  | .freeFunctions => definition.fact.kind == .function

structure CandidateSet where
  candidates : List CandidateRef
  unresolvedReason : RustGraphUnresolvedReason
  deriving DecidableEq

/-- A set without candidates. -/
def CandidateSet.abstain (reason : RustGraphUnresolvedReason) : CandidateSet where
  candidates := []
  unresolvedReason := reason

/-- The loop that pushes the admitted matches of a bucket. -/
def addMatches (admitted : RustGraphDefinitionOccurrence → Bool)
    (evidence : RustGraphResolutionEvidence) :
    List CandidateRef → List RustGraphDefinitionOccurrence →
      Polled RustGraphResolutionError (List CandidateRef)
  | candidates, [] => pure candidates
  | candidates, definition :: rest => do
    Polled.poll
    if admitted definition then
      addMatches admitted evidence (candidates ++ [⟨definition, evidence⟩]) rest
    else
      addMatches admitted evidence candidates rest

def addQualifiedMatches (candidates : List CandidateRef) (qualifiedName : Text)
    (sourceSlot : Option Bytes32) (evidence : RustGraphResolutionEvidence)
    (eligible : EligibleDefinitions) (index : DefinitionIndex) :
    Polled RustGraphResolutionError (List CandidateRef) :=
  addMatches
    (fun definition =>
      sourceSlot.all (definition.sourceSlot == ·) && isEligible definition eligible)
    evidence candidates (index.byQualified.getD qualifiedName [])

def addNameMatches (candidates : List CandidateRef) (name : Text)
    (evidence : RustGraphResolutionEvidence) (eligible : EligibleDefinitions)
    (index : DefinitionIndex) :
    Polled RustGraphResolutionError (List CandidateRef) :=
  addMatches (fun definition => isEligible definition eligible)
    evidence candidates (index.byName.getD name [])

def candidateOrdering : CandidateRef → CandidateRef → Ordering :=
  compareLex (compareOn (·.definition)) (compareOn (·.evidence))

def finishCandidates (candidates : List CandidateRef) (reason : RustGraphUnresolvedReason) :
    Polled RustGraphResolutionError CandidateSet := do
  Polled.poll
  pure
    { candidates :=
        firstOfRuns CandidateRef.definition none (sortBy candidateOrdering candidates)
      unresolvedReason := reason }

/-! ## Scopes -/

/-- `same_slot.then_some(source_slot)`. -/
def slotFilter (sameSlot : Bool) (sourceSlot : Bytes32) : Option Bytes32 :=
  if sameSlot then some sourceSlot else none

/-- A module of the site's own file. -/
def isModuleOfFile (occurrence : RustGraphSiteOccurrence)
    (definition : RustGraphDefinitionOccurrence) : Bool :=
  definition.sourceSlot == occurrence.sourceSlot &&
    definition.path == occurrence.path &&
    definition.fact.kind == .module

def nearestModuleScope (occurrence : RustGraphSiteOccurrence) (index : DefinitionIndex) :
    List Text → Polled RustGraphResolutionError (Option Text)
  | [] => pure none
  | scope :: outer => do
    Polled.poll
    if (index.byQualified.getD scope []).any (isModuleOfFile occurrence) then
      pure (some scope)
    else
      nearestModuleScope occurrence index outer

def referenceModuleScope (occurrence : RustGraphSiteOccurrence) (index : DefinitionIndex) :
    Polled RustGraphResolutionError (Option Text) :=
  match occurrence.site.enclosingDefinition with
  | none => pure none
  | some enclosing =>
    if enclosing.kind = .module then
      pure (some enclosing.qualifiedName)
    else
      nearestModuleScope occurrence index (outerScopes enclosing.qualifiedName)

/-- The scopes a bare name is looked up in, nearest first. -/
def lexicalScopes (occurrence : RustGraphSiteOccurrence) : List Text :=
  match occurrence.site.enclosingDefinition with
  | none => []
  | some enclosing => enclosingScopes enclosing.qualifiedName

/-- The walk over the enclosing scopes, ending at the top level. -/
def lexicalMatchesFrom (occurrence : RustGraphSiteOccurrence) (name : Text)
    (eligible : EligibleDefinitions) (index : DefinitionIndex) :
    List Text → Polled RustGraphResolutionError (List CandidateRef)
  | [] => addQualifiedMatches [] name (some occurrence.sourceSlot) .lexicalSyntax eligible index
  | scope :: outer => do
    Polled.poll
    let candidates ←
      addQualifiedMatches [] (scope ++ separator ++ name)
        (some occurrence.sourceSlot) .lexicalSyntax eligible index
    if candidates.isEmpty then
      lexicalMatchesFrom occurrence name eligible index outer
    else
      pure candidates

def lexicalMatches (occurrence : RustGraphSiteOccurrence) (name : Text)
    (eligible : EligibleDefinitions) (index : DefinitionIndex) :
    Polled RustGraphResolutionError (List CandidateRef) :=
  lexicalMatchesFrom occurrence name eligible index (lexicalScopes occurrence)

/-! ## Resolution of one site -/

/-- The loop over the bindings that name the target in the site's module. -/
def addImportMatches (occurrence : RustGraphSiteOccurrence) (eligible : EligibleDefinitions)
    (index : DefinitionIndex) :
    List CandidateRef → List ImportBinding → Polled RustGraphResolutionError (List CandidateRef)
  | candidates, [] => pure candidates
  | candidates, binding :: rest => do
    Polled.poll
    let extended ←
      addQualifiedMatches candidates binding.target
        (slotFilter binding.sameSlot occurrence.sourceSlot)
        .importSyntax eligible index
    addImportMatches occurrence eligible index extended rest

def importMatches (occurrence : RustGraphSiteOccurrence) (name : Text)
    (eligible : EligibleDefinitions) (index : DefinitionIndex) (imports : ImportIndex)
    (candidates : List CandidateRef) :
    Polled RustGraphResolutionError (List CandidateRef) :=
  match imports[fileKey occurrence]? with
  | none => pure candidates
  | some bindings => do
    let moduleScope ← referenceModuleScope occurrence index
    addImportMatches occurrence eligible index candidates
      (bindings.filter fun binding =>
        binding.aliasName = name ∧ binding.moduleScope = moduleScope)

def resolveReferenceTarget (occurrence : RustGraphSiteOccurrence) (target : Text)
    (eligible : EligibleDefinitions) (index : DefinitionIndex) (imports : ImportIndex) :
    Polled RustGraphResolutionError CandidateSet :=
  match parsePath target with
  | none => pure (.abstain .unsupportedQualifiedSyntax)
  | some parsed =>
    if parsed.bare then do
      let lexical ← lexicalMatches occurrence parsed.path eligible index
      let candidates ← importMatches occurrence parsed.path eligible index imports lexical
      if candidates.isEmpty then
        let named ← addNameMatches candidates parsed.path .exactNameHeuristic eligible index
        finishCandidates named .noCandidate
      else
        finishCandidates candidates .noCandidate
    else do
      let candidates ←
        addQualifiedMatches [] parsed.path (slotFilter parsed.sameSlot occurrence.sourceSlot)
          .qualifiedSyntax eligible index
      finishCandidates candidates .noCandidate

def resolveReference (occurrence : RustGraphSiteOccurrence) (index : DefinitionIndex)
    (imports : ImportIndex) (eligible : EligibleDefinitions) :
    Polled RustGraphResolutionError CandidateSet :=
  resolveReferenceTarget occurrence occurrence.site.rawTarget eligible index imports

def resolveImport (occurrence : RustGraphSiteOccurrence) (index : DefinitionIndex) :
    Polled RustGraphResolutionError CandidateSet :=
  match parseImport occurrence.site.rawTarget with
  | none => pure (.abstain .unsupportedImportShape)
  | some parsed => do
    let candidates ←
      addQualifiedMatches [] parsed.target (slotFilter parsed.sameSlot occurrence.sourceSlot)
        .importSyntax .any index
    finishCandidates candidates .noCandidate

/-- The early-returning loop of `exact_method_candidate_exists`. -/
def anyMatch (holds : RustGraphDefinitionOccurrence → Bool) :
    List RustGraphDefinitionOccurrence → Polled RustGraphResolutionError Bool
  | [] => pure false
  | definition :: rest => do
    Polled.poll
    if holds definition then
      pure true
    else
      anyMatch holds rest

def exactMethodCandidateExists (occurrence : RustGraphSiteOccurrence) (target : Text)
    (index : DefinitionIndex) :
    Polled RustGraphResolutionError Bool :=
  match parsePath target with
  | none => pure false
  | some parsed =>
    anyMatch
      (fun definition =>
        definition.fact.kind == .method &&
          (!parsed.sameSlot || definition.sourceSlot == occurrence.sourceSlot))
      (if parsed.bare then index.byName.getD parsed.path []
        else index.byQualified.getD parsed.path [])

/-- The spellings `resolve_call` does not emulate. -/
def isDynamicCall (raw : Text) : Bool :=
  raw.contains '.' || raw.head? == some '<' || raw.contains '(' || raw.contains '['

/-- The called path without its terminal turbofish. -/
def calledTarget (raw : Text) : Text := (stripTerminalTurbofish raw).getD raw

def abstainForMethods (occurrence : RustGraphSiteOccurrence) (target : Text)
    (index : DefinitionIndex) (resolved : CandidateSet) :
    Polled RustGraphResolutionError CandidateSet :=
  if resolved.candidates.isEmpty then do
    let method ← exactMethodCandidateExists occurrence target index
    pure
      (if method then
        { resolved with unresolvedReason := .dynamicOrMethodCall }
      else
        resolved)
  else
    pure resolved

def resolveCall (occurrence : RustGraphSiteOccurrence) (index : DefinitionIndex)
    (imports : ImportIndex) :
    Polled RustGraphResolutionError CandidateSet :=
  if isDynamicCall occurrence.site.rawTarget then
    pure (.abstain .dynamicOrMethodCall)
  else do
    let resolved ←
      resolveReferenceTarget occurrence
        (calledTarget occurrence.site.rawTarget) .freeFunctions index
        imports
    abstainForMethods occurrence (calledTarget occurrence.site.rawTarget) index resolved

def resolveSite (occurrence : RustGraphSiteOccurrence) (index : DefinitionIndex)
    (imports : ImportIndex) :
    Polled RustGraphResolutionError CandidateSet :=
  match occurrence.site.kind with
  | .macroCall | .testMarker => pure (.abstain .unsupportedSiteKind)
  | .importSite => resolveImport occurrence index
  | .reference => resolveReference occurrence index imports .any
  | .call => resolveCall occurrence index imports

/-! ## Output -/

def resolutionOutputBytes : Nat := 64

def siteOutputFixedBytes : Nat := 121

def candidateOutputFixedBytes : Nat := 106

structure OutputBuilder where
  outcomes : List RustGraphSiteResolution
  outputBytes : Nat
  unresolved : Nat
  unique : Nat
  ambiguous : Nat
  unsupported : Nat
  truncatedSites : Nat
  retainedCandidates : Nat

namespace OutputBuilder

def increment (value : Nat) : Except RustGraphResolutionError Nat :=
  if 2 ^ 32 ≤ value + 1 then .error .countOverflow else .ok (value + 1)

def new (limits : RustGraphResolutionLimits) : Except RustGraphResolutionError OutputBuilder :=
  if limits.maxOutputBytes < resolutionOutputBytes then
    .error .outputLimitExceeded
  else
    .ok
      { outcomes := [], outputBytes := resolutionOutputBytes, unresolved := 0, unique := 0
        ambiguous := 0
        unsupported := 0
        truncatedSites := 0
        retainedCandidates := 0 }

def addOutputBytes (limits : RustGraphResolutionLimits) (builder : OutputBuilder) (bytes : Nat) :
    Except RustGraphResolutionError OutputBuilder :=
  if 2 ^ 64 ≤ builder.outputBytes + bytes then
    .error .countOverflow
  else if limits.maxOutputBytes < builder.outputBytes + bytes then
    .error .outputLimitExceeded
  else
    .ok { builder with outputBytes := builder.outputBytes + bytes }

def retain (limits : RustGraphResolutionLimits) (builder : OutputBuilder) (count : Nat) :
    Except RustGraphResolutionError OutputBuilder :=
  if 2 ^ 64 ≤ builder.retainedCandidates + count then
    .error .countOverflow
  else if limits.maxTotalCandidates < builder.retainedCandidates + count then
    .error .candidateLimitExceeded
  else
    .ok
      { builder with
        retainedCandidates := builder.retainedCandidates + count }

/-- The loop that accounts for the retained candidates of a site. -/
def addCandidates (limits : RustGraphResolutionLimits) :
    OutputBuilder → List CandidateRef → Polled RustGraphResolutionError OutputBuilder
  | builder, [] => pure builder
  | builder, candidate :: rest => do
    Polled.poll
    let fixed ← Polled.done (addOutputBytes limits builder candidateOutputFixedBytes)
    let extended ←
      Polled.done (addOutputBytes limits fixed candidate.definition.path.bytes.length)
    addCandidates limits extended rest

/-- The count of unresolved outcomes that are no plain misses. -/
def unsupportedAfter (builder : OutputBuilder) (reason : RustGraphUnresolvedReason) :
    Except RustGraphResolutionError Nat :=
  if reason ≠ .noCandidate then
    increment builder.unsupported
  else
    .ok builder.unsupported

/-- Count one outcome in its category. -/
def count (builder : OutputBuilder) :
    RustGraphResolutionOutcome → Except RustGraphResolutionError OutputBuilder
  | .unresolved reason => do
    let unresolved ← increment builder.unresolved
    let unsupported ← builder.unsupportedAfter reason
    .ok
      { builder with
        unresolved := unresolved, unsupported := unsupported }
  | .unique _ => do
    let unique ← increment builder.unique
    .ok { builder with unique := unique }
  | .ambiguous _ => do
    let ambiguous ← increment builder.ambiguous
    .ok { builder with ambiguous := ambiguous }

def countTruncated (builder : OutputBuilder) (truncated : Bool) :
    Except RustGraphResolutionError OutputBuilder :=
  if truncated then do
    let truncatedSites ← increment builder.truncatedSites
    .ok { builder with truncatedSites := truncatedSites }
  else
    .ok builder

end OutputBuilder

/-- The owned form of a candidate. -/
def CandidateRef.owned (candidate : CandidateRef) : RustGraphResolutionCandidate where
  target := candidate.definition.identity
  evidence := candidate.evidence

/-- The categorical outcome of the retained candidates of a site. -/
def outcomeOf (reason : RustGraphUnresolvedReason) (truncated : Bool) :
    List RustGraphResolutionCandidate → RustGraphResolutionOutcome
  | [] => .unresolved reason
  | [candidate] => if truncated then .ambiguous [candidate] else .unique candidate
  | candidates => .ambiguous candidates

/-- The result that is pushed for a site and its complete candidate set. -/
def siteResolution (limits : RustGraphResolutionLimits) (occurrence : RustGraphSiteOccurrence)
    (resolved : CandidateSet) : RustGraphSiteResolution where
  site := occurrence.identity
  outcome := outcomeOf resolved.unresolvedReason
      (decide (limits.maxCandidatesPerSite < resolved.candidates.length))
      ((resolved.candidates.take limits.maxCandidatesPerSite).map CandidateRef.owned)
  candidateCount := resolved.candidates.length
  candidatesTruncated := decide (limits.maxCandidatesPerSite < resolved.candidates.length)

namespace OutputBuilder

def push (limits : RustGraphResolutionLimits) (builder : OutputBuilder)
    (occurrence : RustGraphSiteOccurrence) (resolved : CandidateSet) :
    Polled RustGraphResolutionError OutputBuilder := do
  Polled.poll
  if 2 ^ 32 ≤ resolved.candidates.length then
    Polled.fail .countOverflow
  else
    let retained ←
      Polled.done
        (builder.retain limits (resolved.candidates.take limits.maxCandidatesPerSite).length)
    let fixed ← Polled.done (retained.addOutputBytes limits siteOutputFixedBytes)
    let located ← Polled.done (fixed.addOutputBytes limits occurrence.path.bytes.length)
    let listed ← located.addCandidates limits (resolved.candidates.take limits.maxCandidatesPerSite)
    let counted ← Polled.done (listed.count (siteResolution limits occurrence resolved).outcome)
    let finished ←
      Polled.done
        (counted.countTruncated (siteResolution limits occurrence resolved).candidatesTruncated)
    pure
      { finished with
        outcomes := finished.outcomes ++ [siteResolution limits occurrence resolved] }

def finish (builder : OutputBuilder) (definitions sites inputTextBytes : Nat) :
    Polled RustGraphResolutionError RustGraphResolution := do
  Polled.poll
  if 2 ^ 32 ≤ definitions ∨ 2 ^ 32 ≤ sites then
    Polled.fail .countOverflow
  else
    pure
      { outcomes := builder.outcomes
        coverage :=
          { definitions := definitions, sites := sites, unresolved := builder.unresolved
            unique := builder.unique
            ambiguous := builder.ambiguous
            unsupported := builder.unsupported
            truncatedSites := builder.truncatedSites
            retainedCandidates := builder.retainedCandidates }
        inputTextBytes := inputTextBytes
        outputBytes := builder.outputBytes }

end OutputBuilder

/-! ## The complete run -/

/-- The loop over the sites in site order. -/
def resolveSites (limits : RustGraphResolutionLimits) (index : DefinitionIndex)
    (imports : ImportIndex) :
    OutputBuilder → List RustGraphSiteOccurrence → Polled RustGraphResolutionError OutputBuilder
  | builder, [] => pure builder
  | builder, occurrence :: rest => do
    Polled.poll
    let resolved ← resolveSite occurrence index imports
    let extended ← builder.push limits occurrence resolved
    resolveSites limits index imports extended rest

def resolveRustGraphSites (definitions : List RustGraphDefinitionOccurrence)
    (sites : List RustGraphSiteOccurrence) (limits : RustGraphResolutionLimits) :
    Polled RustGraphResolutionError RustGraphResolution := do
  Polled.poll
  let admitted ← admitInputs definitions sites limits
  let index ← buildDefinitionIndex admitted.definitionOrder
  let imports ← buildImportIndex admitted.siteOrder
  let builder ← Polled.done (OutputBuilder.new limits)
  let output ← resolveSites limits index imports builder admitted.siteOrder
  Polled.poll
  output.finish definitions.length sites.length admitted.inputTextBytes

/-! ## Two functions of one name -/

namespace NestedHelpers

/-- The path `a.rs`. -/
def file : RepositoryPath := Sample.path

def spanFrom (start length : Nat) : ByteSpan where
  start := start
  stop := start + length
  ordered := Nat.le_add_right start length

def helper (ordinal : UInt8) (qualifiedName : Text) (nonempty : qualifiedName ≠ []) :
    RustGraphDefinitionOccurrence where
  sourceSlot := 0
  path := file
  artifact := 1
  factOrdinal := ordinal.toNat
  fact :=
    { kind := .function, name := "helper".toList, qualifiedName := qualifiedName
      nameSpan := spanFrom (20 * ordinal.toNat) 6
      declarationSpan := spanFrom (20 * ordinal.toNat) 15
      nameNonempty := by decide
      qualifiedNonempty := nonempty
      nameInside := by simp [spanContains, spanFrom] }
  ordinalBounded := byte_interoperable ordinal
  rustPath := by decide

/-- The function at the crate root. -/
def root : RustGraphDefinitionOccurrence := helper 0 "helper".toList (by decide)

/-- The function of the same name in module `m`. -/
def nested : RustGraphDefinitionOccurrence := helper 1 "m::helper".toList (by decide)

/-- A call from the body of `m::run`. -/
def callFrom (ordinal : UInt8) (target : Text) (nonempty : target ≠ []) :
    RustGraphSiteOccurrence where
  sourceSlot := 0
  path := file
  artifact := 2
  site :=
    { ordinal := ordinal.toNat, kind := .call, evidence := .syntaxHeuristic
      occurrenceSpan := spanFrom (100 + 20 * ordinal.toNat) (byteLength target)
      targetSpan := spanFrom (100 + 20 * ordinal.toNat) (byteLength target)
      rawTarget := target
      enclosingDefinition := some
          { kind := .function, name := "run".toList, qualifiedName := "m::run".toList
            nameNonempty := by decide
            qualifiedNonempty := by decide }
      targetNonempty := nonempty
      targetInside := by simp [spanContains]
      targetLength := by simp [spanFrom] }
  rustPath := by decide

/-- `helper()` in `m::run`. -/
def bareCall : RustGraphSiteOccurrence := callFrom 0 "helper".toList (by decide)

/-- `crate::helper()` in `m::run`. -/
def rootedCall : RustGraphSiteOccurrence := callFrom 1 "crate::helper".toList (by decide)

end NestedHelpers

end RepoWitness
