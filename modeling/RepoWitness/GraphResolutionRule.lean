import RepoWitness.GraphResolutionAdmission

namespace RepoWitness

open Std
open Text

/-!
# The resolution rule as a plain scan

This module states what a site resolves to without indexes: every definition
is asked for the evidence that connects it to the site.  A qualified target
names the definitions of that exact qualified name; a bare target names those
of the nearest enclosing scope that has any, those an import of the file binds
to it in the nearest module, and only without either all of that simple name.
-/

/-! ## Matches -/

section Matches

variable (definitions : List RustGraphDefinitionOccurrence) (sites : List RustGraphSiteOccurrence)
  (occurrence : RustGraphSiteOccurrence) (name : Text) (eligible : EligibleDefinitions)

def matchesQualified (qualifiedName : Text) (sourceSlot : Option Bytes32)
    (eligible : EligibleDefinitions) (definition : RustGraphDefinitionOccurrence) : Bool :=
  definition.fact.qualifiedName == qualifiedName &&
    (sourceSlot.all (definition.sourceSlot == ·) && isEligible definition eligible)

def lexicalName : Text :=
  let spelled := (lexicalScopes occurrence).map fun scope => scope ++ separator ++ name
  (spelled.find? fun qualifiedName =>
    definitions.any
      (matchesQualified qualifiedName (some occurrence.sourceSlot) eligible)).getD name

def matchesLexical (definition : RustGraphDefinitionOccurrence) : Bool :=
  matchesQualified (lexicalName definitions occurrence name eligible)
    (some occurrence.sourceSlot) eligible definition

def nearestModule : Option Text :=
  match occurrence.site.enclosingDefinition with
  | none => none
  | some enclosing =>
    if enclosing.kind = .module then
      some enclosing.qualifiedName
    else
      (outerScopes enclosing.qualifiedName).find? fun scope =>
        definitions.any fun definition =>
          definition.fact.qualifiedName == scope && isModuleOfFile occurrence definition

def bindsName (importing : RustGraphSiteOccurrence) (parsed : ParsedImport) : Bool :=
  importing.site.kind == .importSite &&
    fileKey importing == fileKey occurrence &&
    parsed.aliasName == some name &&
    importModuleScope importing == some (nearestModule definitions occurrence)

def matchesImport (definition : RustGraphDefinitionOccurrence) : Bool :=
  sites.any fun importing =>
    match parseImport importing.site.rawTarget with
    | none => false
    | some parsed =>
      bindsName definitions occurrence name importing parsed &&
        matchesQualified parsed.target (slotFilter parsed.sameSlot occurrence.sourceSlot) eligible
          definition

def matchesSyntax (definition : RustGraphDefinitionOccurrence) : Bool :=
  matchesLexical definitions occurrence name eligible definition ||
    matchesImport definitions sites occurrence name eligible definition

def matchesName (definition : RustGraphDefinitionOccurrence) : Bool :=
  !definitions.any (matchesSyntax definitions sites occurrence name eligible) &&
    (definition.fact.name == name && isEligible definition eligible)

end Matches

/-! ## Readings of a target -/

/-- How a site's spelling is read. -/
inductive TargetReading where
  | unsupported (reason : RustGraphUnresolvedReason)
  | qualified (path : Text) (sourceSlot : Option Bytes32) (evidence : RustGraphResolutionEvidence)
      (eligible : EligibleDefinitions)
  | bare (name : Text) (eligible : EligibleDefinitions)
  deriving DecidableEq

/--
The reading of a path spelling.  `isQualified` decides which supported paths
are qualified.
-/
def pathReading (isQualified : Text → ParsedPath → Bool) (occurrence : RustGraphSiteOccurrence)
    (target : Text) (eligible : EligibleDefinitions) : TargetReading :=
  match parsePath target with
  | none => .unsupported .unsupportedQualifiedSyntax
  | some parsed =>
    if isQualified target parsed then
      .qualified parsed.path (slotFilter parsed.sameSlot occurrence.sourceSlot)
        .qualifiedSyntax eligible
    else
      .bare parsed.path eligible

def siteReading (isQualified : Text → ParsedPath → Bool)
    (occurrence : RustGraphSiteOccurrence) : TargetReading :=
  match occurrence.site.kind with
  | .macroCall | .testMarker => .unsupported .unsupportedSiteKind
  | .importSite =>
    match parseImport occurrence.site.rawTarget with
    | none => .unsupported .unsupportedImportShape
    | some parsed =>
      .qualified parsed.target (slotFilter parsed.sameSlot occurrence.sourceSlot)
        .importSyntax .any
  | .reference => pathReading isQualified occurrence occurrence.site.rawTarget .any
  | .call =>
    if isDynamicCall occurrence.site.rawTarget then
      .unsupported .dynamicOrMethodCall
    else
      pathReading isQualified occurrence (calledTarget occurrence.site.rawTarget) .freeFunctions

/-- The declared reading: a spelling with a separator is qualified. -/
def declaredReading : RustGraphSiteOccurrence → TargetReading :=
  siteReading fun target _ => containsSeparator target

/-- The engine's reading: what `parse_path` does not call bare is qualified. -/
def engineReading : RustGraphSiteOccurrence → TargetReading :=
  siteReading fun _ parsed => !parsed.bare

section Readings

variable (definitions : List RustGraphDefinitionOccurrence) (sites : List RustGraphSiteOccurrence)
  (occurrence : RustGraphSiteOccurrence)

/-- The strongest evidence that connects a definition to a reading. -/
def readingEvidence (reading : TargetReading) (definition : RustGraphDefinitionOccurrence) :
    Option RustGraphResolutionEvidence :=
  match reading with
  | .unsupported _ => none
  | .qualified path sourceSlot evidence eligible =>
    if matchesQualified path sourceSlot eligible definition then
      some evidence
    else
      none
  | .bare name eligible =>
    if matchesLexical definitions occurrence name eligible definition then
      some .lexicalSyntax
    else if matchesImport definitions sites occurrence name eligible definition then
      some .importSyntax
    else if matchesName definitions sites occurrence name eligible definition then
      some .exactNameHeuristic
    else
      none

def readingCandidates (reading : TargetReading) : List CandidateRef :=
  (sortBy definitionOrdering definitions).filterMap fun definition =>
    (readingEvidence definitions sites occurrence reading
      definition).map fun evidence => ⟨definition, evidence⟩

def methodMatches (parsed : ParsedPath) (definition : RustGraphDefinitionOccurrence) : Bool :=
  (if parsed.bare then definition.fact.name == parsed.path
    else definition.fact.qualifiedName == parsed.path) &&
    (definition.fact.kind == .method &&
      (!parsed.sameSlot || definition.sourceSlot == occurrence.sourceSlot))

/-- The call may go to a method, which is not emulated. -/
def callsMethod : Bool := occurrence.site.kind == .call &&
    match parsePath (calledTarget occurrence.site.rawTarget) with
    | none => false
    | some parsed => definitions.any (methodMatches occurrence parsed)

/-- Why a reading has no candidates, when it has none. -/
def readingReason (reading : TargetReading) : RustGraphUnresolvedReason :=
  match reading with
  | .unsupported reason => reason
  | _ =>
    if readingCandidates definitions sites occurrence reading = [] ∧
        callsMethod definitions occurrence then
      .dynamicOrMethodCall
    else
      .noCandidate

def readingSet (reading : TargetReading) : CandidateSet where
  candidates := readingCandidates definitions sites occurrence reading
  unresolvedReason := readingReason definitions sites occurrence reading

/-- What the rule says a site resolves to. -/
def declaredResolution (limits : RustGraphResolutionLimits) : RustGraphSiteResolution :=
  siteResolution limits occurrence
    (readingSet definitions sites occurrence (declaredReading occurrence))

end Readings

/-! ## Where the two readings differ -/

/-- A single name spelled with a leading `crate::` or `::`. -/
def rootedPath (target : Text) : Option ParsedPath :=
  (parsePath target).filter fun parsed => parsed.bare && containsSeparator target

/-- The rooted single name a reference or call is spelled with. -/
def rootedTarget (occurrence : RustGraphSiteOccurrence) :
    Option (ParsedPath × EligibleDefinitions) :=
  match occurrence.site.kind with
  | .reference => (rootedPath occurrence.site.rawTarget).map (·, .any)
  | .call =>
    if isDynamicCall occurrence.site.rawTarget then
      none
    else
      (rootedPath (calledTarget occurrence.site.rawTarget)).map (·, .freeFunctions)
  | _ => none

variable {target : Text} {parsed : ParsedPath} {occurrence : RustGraphSiteOccurrence}
  {eligible : EligibleDefinitions}

/-- A path with separators left in it was spelled with separators. -/
theorem containsSeparator_of_not_bare
    (isParsed : parsePath target = some parsed) (composite : parsed.bare = false) :
    containsSeparator target = true := by
  unfold parsePath at isParsed
  split at isParsed
  · cases isParsed
  · simp only at isParsed
    split at isParsed
    · cases isParsed
    · cases isParsed
      simp only [Bool.not_eq_false', containsSeparator_iff] at composite ⊢
      unfold stripPathRoot at composite
      split at composite
      case h_1 path stripped =>
          rw [stripPrefix_eq_some_iff.mp stripped]
          exact composite.trans (List.suffix_append _ path).isInfix
      case h_2 =>
          split at composite
          case h_1 path stripped =>
              rw [stripPrefix_eq_some_iff.mp stripped]
              exact composite.trans (List.suffix_append _ path).isInfix
          case h_2 => exact composite

theorem pathReading_of_not_rooted (unrooted : rootedPath target = none) :
    pathReading (fun target _ => containsSeparator target) occurrence target eligible =
      pathReading (fun _ parsed => !parsed.bare) occurrence target
        eligible := by
  unfold pathReading
  cases isParsed : parsePath target with
  | none => rfl
  | some parsed =>
    have agree : containsSeparator target = !parsed.bare := by
      cases single : parsed.bare with
      | false => exact containsSeparator_of_not_bare isParsed single
      | true => simpa [rootedPath, isParsed, single] using unrooted
    simp only [agree]

theorem readings_agree (unrooted : rootedTarget occurrence = none) :
    declaredReading occurrence = engineReading occurrence := by
  unfold declaredReading engineReading siteReading
  unfold rootedTarget at unrooted
  cases kind : occurrence.site.kind with
  | importSite => rfl
  | macroCall => rfl
  | testMarker => rfl
  | reference =>
    simp only [kind, Option.map_eq_none_iff] at unrooted
    exact pathReading_of_not_rooted unrooted
  | call =>
    cases dynamic : isDynamicCall occurrence.site.rawTarget with
    | true => rfl
    | false =>
      simp only [kind, dynamic, Bool.false_eq_true, if_false, Option.map_eq_none_iff] at unrooted
      simpa [dynamic] using pathReading_of_not_rooted unrooted

theorem rootedPath_eq_some (rooted : rootedPath target = some parsed) :
    parsePath target = some parsed ∧ parsed.bare = true ∧ containsSeparator target = true := by
  unfold rootedPath at rooted
  rw [Option.filter_eq_some_iff, Bool.and_eq_true] at rooted
  exact rooted

theorem readings_of_rooted (rooted : rootedTarget occurrence = some (parsed, eligible)) :
    declaredReading occurrence =
        .qualified parsed.path (slotFilter parsed.sameSlot occurrence.sourceSlot)
          .qualifiedSyntax eligible ∧
      engineReading occurrence = .bare parsed.path eligible := by
  unfold declaredReading engineReading siteReading
  unfold rootedTarget at rooted
  cases kind : occurrence.site.kind with
  | importSite => simp [kind] at rooted
  | macroCall => simp [kind] at rooted
  | testMarker => simp [kind] at rooted
  | reference =>
    simp only [kind, Option.map_eq_some_iff, Prod.mk.injEq] at rooted
    obtain ⟨_, isRooted, rfl, rfl⟩ := rooted
    obtain ⟨isParsed, single, separated⟩ := rootedPath_eq_some isRooted
    simp [pathReading, isParsed, single, separated]
  | call =>
    cases dynamic : isDynamicCall occurrence.site.rawTarget with
    | true => simp [kind, dynamic] at rooted
    | false =>
      simp only [kind, dynamic, Bool.false_eq_true, if_false,
        Option.map_eq_some_iff, Prod.mk.injEq] at rooted
      obtain ⟨_, isRooted, rfl, rfl⟩ := rooted
      obtain ⟨isParsed, single, separated⟩ := rootedPath_eq_some isRooted
      simp [pathReading, isParsed, single, separated]

end RepoWitness
