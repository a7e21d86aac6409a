import RepoWitness.GroupedIndex
import RepoWitness.ScopedText
import RepoWitness.SourceIdentity

namespace RepoWitness

open Std

/-!
# Definitions, raw sites and resolution outcomes

The resolver reads an immutable set of declaration facts and raw sites and
connects every site to the declarations its spelling may name.  This module has
the occurrences with the invariants their constructors check, the limits and
errors of one run, the outcome of a site, and the grammar of supported target
spellings.
-/

/-! ## Limits and errors -/

/-- Independent admission and output limits for one complete resolver run. -/
structure RustGraphResolutionLimits where
  maxDefinitions : Nat
  maxSites : Nat
  maxCandidatesPerSite : Nat
  maxTotalCandidates : Nat
  maxInputTextBytes : Nat
  maxOutputBytes : Nat
  definitionsBounded : 0 < maxDefinitions ∧ maxDefinitions ≤ 250000
  sitesBounded : 0 < maxSites ∧ maxSites ≤ 250000
  candidatesBounded : 2 ≤ maxCandidatesPerSite ∧ maxCandidatesPerSite ≤ 4096
  totalBounded : 0 < maxTotalCandidates ∧ maxTotalCandidates ≤ 1000000
  textBounded : 0 < maxInputTextBytes ∧ maxInputTextBytes ≤ 256 * 1024 * 1024
  outputBounded : 0 < maxOutputBytes ∧ maxOutputBytes ≤ 256 * 1024 * 1024
  deriving DecidableEq

/-- Conservative limits bounded by compiled hard ceilings. -/
def RustGraphResolutionLimits.default : RustGraphResolutionLimits where
  maxDefinitions := 100000
  maxSites := 250000
  maxCandidatesPerSite := 64
  maxTotalCandidates := 500000
  maxInputTextBytes := 128 * 1024 * 1024
  maxOutputBytes := 128 * 1024 * 1024
  definitionsBounded := by decide
  sitesBounded := by decide
  candidatesBounded := by decide
  totalBounded := by decide
  textBounded := by decide
  outputBounded := by decide

/-- Resolver failure. -/
inductive RustGraphResolutionError where
  | invalidLimits
  | invalidOccurrence
  | definitionLimitExceeded
  | siteLimitExceeded
  | inputTextLimitExceeded
  | candidateLimitExceeded
  | outputLimitExceeded
  | duplicateDefinition
  | duplicateSite
  | countOverflow
  | cancelled
  | deadlineExceeded
  deriving DecidableEq

/-! ## Occurrences -/

/-- One declaration fact, with the structure its constructor validates. -/
structure RustSymbolFact where
  kind : RustSymbolKind
  name : Text
  qualifiedName : Text
  nameSpan : ByteSpan
  declarationSpan : ByteSpan
  nameNonempty : name ≠ []
  qualifiedNonempty : qualifiedName ≠ []
  nameInside : spanContains declarationSpan nameSpan = true

instance : DecidableEq RustSymbolFact := fun first second =>
  decidable_of_iff (first.kind = second.kind ∧ first.name = second.name ∧
      first.qualifiedName = second.qualifiedName ∧ first.nameSpan = second.nameSpan ∧
      first.declarationSpan = second.declarationSpan)
    (by cases first; cases second; simp)

/-- One validated declaration occurrence in the resolver input. -/
structure RustGraphDefinitionOccurrence where
  sourceSlot : Bytes32
  path : RepositoryPath
  artifact : Bytes32
  factOrdinal : Nat
  fact : RustSymbolFact
  ordinalBounded : factOrdinal ≤ maxMemoryInteroperableInteger
  rustPath : path.isRustPath = true

instance : DecidableEq RustGraphDefinitionOccurrence := fun first second =>
  decidable_of_iff
    (first.sourceSlot = second.sourceSlot ∧ first.path = second.path ∧
      first.artifact = second.artifact ∧ first.factOrdinal = second.factOrdinal ∧
      first.fact = second.fact)
    (by cases first; cases second; simp)

/-- The declaration a raw site lies in. -/
structure RustGraphEnclosingDefinition where
  kind : RustSymbolKind
  name : Text
  qualifiedName : Text
  nameNonempty : name ≠ []
  qualifiedNonempty : qualifiedName ≠ []
  deriving DecidableEq

structure RustGraphSite where
  ordinal : Nat
  kind : RustGraphSiteKind
  evidence : RustGraphSiteEvidence
  occurrenceSpan : ByteSpan
  targetSpan : ByteSpan
  rawTarget : Text
  enclosingDefinition : Option RustGraphEnclosingDefinition
  targetNonempty : rawTarget ≠ []
  targetInside : spanContains occurrenceSpan targetSpan = true
  targetLength : targetSpan.stop - targetSpan.start = Text.byteLength rawTarget

/-- One validated raw-site occurrence in the resolver input. -/
structure RustGraphSiteOccurrence where
  sourceSlot : Bytes32
  path : RepositoryPath
  artifact : Bytes32
  site : RustGraphSite
  rustPath : path.isRustPath = true

/--
The identity a definition occurrence hands out: the fields of
`RustGraphDefinitionIdentity`, taken over without the checks of its constructor.
-/
structure RustGraphDefinitionTarget where
  sourceSlot : Bytes32
  path : RepositoryPath
  artifact : Bytes32
  factOrdinal : Nat
  kind : RustSymbolKind
  nameSpan : ByteSpan
  declarationSpan : ByteSpan
  deriving DecidableEq

def RustGraphDefinitionOccurrence.identity (definition : RustGraphDefinitionOccurrence) :
    RustGraphDefinitionTarget where
  sourceSlot := definition.sourceSlot
  path := definition.path
  artifact := definition.artifact
  factOrdinal := definition.factOrdinal
  kind := definition.fact.kind
  nameSpan := definition.fact.nameSpan
  declarationSpan := definition.fact.declarationSpan

theorem RustGraphSite.targetSpan_nonempty (site : RustGraphSite) :
    site.targetSpan.isEmpty = false := by
  have positive := Text.byteLength_pos site.targetNonempty
  have length := site.targetLength
  unfold ByteSpan.isEmpty
  rw [beq_eq_false_iff_ne]
  omega

def RustGraphSiteOccurrence.identity (occurrence : RustGraphSiteOccurrence) :
    RustGraphSiteIdentity where
  sourceSlot := occurrence.sourceSlot
  path := occurrence.path
  artifact := occurrence.artifact
  ordinal := occurrence.site.ordinal
  kind := occurrence.site.kind
  occurrenceSpan := occurrence.site.occurrenceSpan
  targetSpan := occurrence.site.targetSpan
  rustPath := occurrence.rustPath
  targetNonempty := occurrence.site.targetSpan_nonempty
  targetInside := occurrence.site.targetInside

/-! ## Orders -/

/-- The part of `definition_ordering` that tells two definitions apart. -/
def definitionKeyOrdering : RustGraphDefinitionOccurrence →
      RustGraphDefinitionOccurrence → Ordering :=
  compareLex (compareOn (·.sourceSlot)) <|
  compareLex (compareOn (·.path)) <|
  compareLex (compareOn (·.artifact)) (compareOn (·.factOrdinal))

def definitionOrdering : RustGraphDefinitionOccurrence →
      RustGraphDefinitionOccurrence → Ordering :=
  compareLex (compareOn (·.sourceSlot)) <|
  compareLex (compareOn (·.path)) <|
  compareLex (compareOn (·.artifact)) <|
  compareLex (compareOn (·.factOrdinal)) <|
  compareLex (compareOn (·.fact.kind)) <|
  compareLex (compareOn (·.fact.nameSpan)) (compareOn (·.fact.declarationSpan))

instance : Ord RustGraphDefinitionOccurrence where
  compare := definitionOrdering

instance : TransOrd RustGraphDefinitionOccurrence := inferInstanceAs (TransCmp (compareLex _ _))

instance : TransCmp definitionOrdering := inferInstanceAs (TransCmp (compareLex _ _))

instance : TransCmp definitionKeyOrdering := inferInstanceAs (TransCmp (compareLex _ _))

/-- The part of `site_ordering` that tells two sites apart. -/
def siteKeyOrdering : RustGraphSiteOccurrence → RustGraphSiteOccurrence → Ordering :=
  compareLex (compareOn (·.sourceSlot)) <|
  compareLex (compareOn (·.path)) <|
  compareLex (compareOn (·.artifact)) (compareOn (·.site.ordinal))

def siteOrdering : RustGraphSiteOccurrence → RustGraphSiteOccurrence → Ordering :=
  compareLex (compareOn (·.sourceSlot)) <|
  compareLex (compareOn (·.path)) <|
  compareLex (compareOn (·.artifact)) <|
  compareLex (compareOn (·.site.ordinal)) <|
  compareLex (compareOn (·.site.kind)) <|
  compareLex (compareOn (·.site.occurrenceSpan)) (compareOn (·.site.targetSpan))

instance : TransCmp siteKeyOrdering := inferInstanceAs (TransCmp (compareLex _ _))

def sameDefinitionIdentity (left right : RustGraphDefinitionOccurrence) : Bool :=
  left.sourceSlot == right.sourceSlot && left.path == right.path &&
    left.artifact == right.artifact &&
    left.factOrdinal == right.factOrdinal

def sameSiteIdentity (left right : RustGraphSiteOccurrence) : Bool :=
  left.sourceSlot == right.sourceSlot && left.path == right.path &&
    left.artifact == right.artifact &&
    left.site.ordinal == right.site.ordinal

/-! ## Outcomes -/

/-- Why complete bounded resolution produced no candidates. -/
inductive RustGraphUnresolvedReason where
  | noCandidate
  | unsupportedSiteKind
  | unsupportedImportShape
  | dynamicOrMethodCall
  | unsupportedQualifiedSyntax
  deriving DecidableEq

structure RustGraphResolutionCandidate where
  target : RustGraphDefinitionTarget
  evidence : RustGraphResolutionEvidence
  deriving DecidableEq

/-- Categorical zero, one, or many result for one site. -/
inductive RustGraphResolutionOutcome where
  | unresolved (reason : RustGraphUnresolvedReason)
  | unique (candidate : RustGraphResolutionCandidate)
  | ambiguous (candidates : List RustGraphResolutionCandidate)
  deriving DecidableEq

/-- Complete result for one exact site. -/
structure RustGraphSiteResolution where
  site : RustGraphSiteIdentity
  outcome : RustGraphResolutionOutcome
  candidateCount : Nat
  candidatesTruncated : Bool
  deriving DecidableEq

/-- Exact coverage counters for one complete resolver run. -/
structure RustGraphResolutionCoverage where
  definitions : Nat
  sites : Nat
  unresolved : Nat
  unique : Nat
  ambiguous : Nat
  unsupported : Nat
  truncatedSites : Nat
  retainedCandidates : Nat
  deriving DecidableEq

/-- Complete deterministic output for one immutable generation input. -/
structure RustGraphResolution where
  outcomes : List RustGraphSiteResolution
  coverage : RustGraphResolutionCoverage
  inputTextBytes : Nat
  outputBytes : Nat
  deriving DecidableEq

/-! ## Target spellings -/

open Text

def isIdentifier (value : Text) : Bool :=
  match (stripPrefix ['r', '#'] value).getD value with
  | [] => false
  | first :: characters =>
    (first == '_' || first.isAlpha) &&
      characters.all fun character => character == '_' || character.isAlphanum

/-- A supported path spelling. -/
structure ParsedPath where
  path : Text
  sameSlot : Bool
  bare : Bool
  deriving DecidableEq

/-- The spellings `parse_path` refuses before it looks at the segments. -/
def isUnsupportedPath (raw : Text) : Bool :=
  raw.isEmpty || raw.any isWhitespace ||
    raw.any (['{', '}', '*', '!', '.', '(', ')', '[', ']', '&', '='].contains ·) ||
    "self::".toList.isPrefixOf raw || "super::".toList.isPrefixOf raw

/-- The path without a leading `crate::` or `::`, and whether it had `crate::`. -/
def stripPathRoot (raw : Text) : Text × Bool :=
  match stripPrefix "crate::".toList raw with
  | some path => (path, true)
  | none =>
    match stripPrefix separator raw with
    | some path => (path, false)
    | none => (raw, false)

def parsePath (raw : Text) : Option ParsedPath :=
  if isUnsupportedPath raw then
    none
  else
    let (path, sameSlot) := stripPathRoot raw
    if path.isEmpty || !(splitSegments path).all isIdentifier then
      none
    else
      some { path := path, sameSlot := sameSlot, bare := !containsSeparator path }

/-- A supported import spelling. -/
structure ParsedImport where
  target : Text
  aliasName : Option Text
  sameSlot : Bool
  deriving DecidableEq

/-- The two import shapes, with an explicit alias when there is one. -/
def importFields (raw : Text) : Option (Text × Option Text) :=
  match splitAsciiWhitespace raw with
  | [target] => some (target, none)
  | [target, keyword, explicit] =>
    if keyword = ['a', 's'] then some (target, some explicit) else none
  | _ => none

def parseImport (raw : Text) : Option ParsedImport := do
  let (rawTarget, explicitAlias) ← importFields raw
  let parsed ← parsePath rawTarget
  let named (aliasName : Option Text) : ParsedImport :=
    { target := parsed.path, aliasName := aliasName, sameSlot := parsed.sameSlot }
  match explicitAlias with
  | some explicit =>
    if explicit = ['_'] then
      some (named none)
    else if isIdentifier explicit then
      some (named (some explicit))
    else
      none
  | none =>
    let last := lastSegment parsed.path
    some (named (if last = "self".toList then none else some last))

/-- The bracket depth after a suffix, with checked arithmetic. -/
def turbofishDepth : Nat → Text → Option Nat
  | depth, [] => some depth
  | depth, character :: rest =>
    if character = '<' then
      if 2 ^ 32 ≤ depth + 1 then none else turbofishDepth (depth + 1) rest
    else if character = '>' then
      if depth = 0 then none else turbofishDepth (depth - 1) rest
    else
      turbofishDepth depth rest

def stripTerminalTurbofish (raw : Text) : Option Text := do
  let (before, after) ← rsplitOnce "::<".toList raw
  let suffix := '<' :: after
  if suffix.getLast? ≠ some '>' then
    none
  else
    let depth ← turbofishDepth 0 suffix
    if depth = 0 ∧ before ≠ [] then some before else none

end RepoWitness
