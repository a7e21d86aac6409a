import RepoWitness.FramedBytes
import RepoWitness.RustCorrespondence
import RepoWitness.SourceReconciliation
import RepoWitness.Utf8Text

namespace RepoWitness

/-!
# Preimages of the canonical digests

The digests of a source manifest, of an analysis artifact and of a declaration
without its name hash a domain, a version and framed fields.  SHA-256 stays a
function of these bytes; the bytes determine what was hashed, although the
correspondence block of an artifact is only there for facts that carry one.
-/

def SourceFileKind.canonicalTag : SourceFileKind → UInt8
  | .regular => 1
  | .symbolicLink => 2
  | .gitlink => 3
  | .other => 4

def RustSymbolKind.asStr : RustSymbolKind → String
  | .function => "function"
  | .method => "method"
  | .struct => "struct"
  | .enum => "enum"
  | .union => "union"
  | .trait => "trait"
  | .module => "module"
  | .typeAlias => "type_alias"
  | .constant => "constant"
  | .static => "static"
  | .macroDefinition => "macro"
  | .interface => "interface"
  | .definedType => "defined_type"
  | .packageVariable => "variable"
  | .classDeclaration => "class"

/-- The bytes of a constant text. -/
def asciiBytes (text : String) : List UInt8 := Text.encodeUtf8 text.toList

def Bytes32.bytes (value : Bytes32) : List UInt8 := bigEndian 32 value.toNat

abbrev CanonicalSourceManifest := SourceManifest RepositoryPath SourceFileKind Bytes32

/-! ## Analysis artifacts -/

/-- A `RustSymbolFact` with its correspondence, whose offsets are 64-bit numbers. -/
structure AnalyzedSymbolFact where
  kind : RustSymbolKind
  name : Text
  qualifiedName : Text
  nameSpan : ByteSpan
  declarationSpan : ByteSpan
  correspondence : Option RustOccurrenceFingerprint
  nameAddressed : nameSpan.stop < 2 ^ 64
  declarationAddressed : declarationSpan.stop < 2 ^ 64

/-- The limits that the constructors of an analysis read. -/
structure RustAnalysisLimits where
  maxSyntaxNodes : Nat
  maxSymbolFacts : Nat
  maxSymbolNameBytes : Nat
  maxQualifiedNameBytes : Nat
  nodesBounded : maxSyntaxNodes ≤ 1_000_000
  factsBounded : maxSymbolFacts ≤ 100_000
  namesBounded : maxSymbolNameBytes ≤ 1024
  qualifiedNamesBounded : maxQualifiedNameBytes ≤ 4096

def AnalyzedSymbolFact.isValid (fact : AnalyzedSymbolFact) (limits : RustAnalysisLimits) : Bool :=
  !fact.name.isEmpty && !fact.qualifiedName.isEmpty &&
    decide (fact.name.byteLength ≤ limits.maxSymbolNameBytes) &&
    decide (fact.qualifiedName.byteLength ≤ limits.maxQualifiedNameBytes) &&
    spanContains fact.declarationSpan fact.nameSpan

/-- What `try_from_parts` checks. -/
def validAnalysisParts (facts : List AnalyzedSymbolFact)
    (visitedNodes syntaxErrorNodes knownParserLimitationNodes : Nat)
    (limits : RustAnalysisLimits) : Bool :=
  decide (visitedNodes ≠ 0) && decide (visitedNodes ≤ limits.maxSyntaxNodes) &&
    decide (syntaxErrorNodes ≤ visitedNodes) &&
    decide (knownParserLimitationNodes ≤ syntaxErrorNodes) &&
    decide (facts.length ≤ limits.maxSymbolFacts) && facts.all (·.isValid limits)

structure RustSourceAnalysis where
  facts : List AnalyzedSymbolFact
  visitedNodes : Nat
  syntaxErrorNodes : Nat
  knownParserLimitationNodes : Nat
  accepted : ∃ limits,
    validAnalysisParts facts visitedNodes syntaxErrorNodes knownParserLimitationNodes limits = true

/-! ## Preimages -/

def sourceManifestEntryBytes (entry : SourceManifestEntry RepositoryPath SourceFileKind Bytes32) :
    List UInt8 :=
  lengthPrefixed entry.path.bytes ++ ([entry.fileType.canonicalTag] ++ entry.contentDigest.bytes)

def sourceManifestPreimage (manifest : CanonicalSourceManifest) : List UInt8 :=
  asciiBytes "RepoWitness\x00source-manifest\x00" ++ (bigEndian 2 1 ++
      (bigEndian 8 manifest.entries.length ++
        encodeEach (fun _ entry => sourceManifestEntryBytes entry) 0 manifest.entries))

/-- The correspondence part of one fact, in artifacts that have any. -/
def correspondenceBytes : Option RustOccurrenceFingerprint → List UInt8
  | some fingerprint => [1] ++ (fingerprint.declaration.bytes ++ fingerprint.nameElided.bytes)
  | none => [0]

def spanBytes (span : ByteSpan) : List UInt8 := bigEndian 8 span.start ++ bigEndian 8 span.stop

def factBytes (hasCorrespondence : Bool) (ordinal : Nat) (fact : AnalyzedSymbolFact) : List UInt8 :=
  bigEndian 8 ordinal ++ (lengthPrefixed (asciiBytes fact.kind.asStr) ++
      (lengthPrefixed (Text.encodeUtf8 fact.name) ++
        (lengthPrefixed (Text.encodeUtf8 fact.qualifiedName) ++
          (spanBytes fact.nameSpan ++ (spanBytes fact.declarationSpan ++
              if hasCorrespondence then correspondenceBytes fact.correspondence else [])))))

def rustCorrespondenceProfile : List UInt8 :=
  lengthPrefixed (asciiBytes "rust-name-elided") ++ bigEndian 4 1

def analysisArtifactPreimage (analysis : RustSourceAnalysis) : List UInt8 :=
  let hasCorrespondence := analysis.facts.any (·.correspondence.isSome)
  asciiBytes "RepoWitness\x00analysis-artifact-payload\x00" ++ (bigEndian 4 3 ++
      ((if hasCorrespondence then rustCorrespondenceProfile else []) ++
        (bigEndian 4 analysis.visitedNodes ++
          (bigEndian 4 analysis.syntaxErrorNodes ++
            (bigEndian 4 analysis.knownParserLimitationNodes ++
              (bigEndian 8 analysis.facts.length ++
                encodeEach (factBytes hasCorrespondence) 0 analysis.facts))))))

def sourceRange (source : List UInt8) (start stop : Nat) : Option (List UInt8) :=
  if start ≤ stop ∧ stop ≤ source.length then some (slice source start stop) else none

structure OccurrenceParts where
  declaration : List UInt8
  container : Text
  beforeName : List UInt8
  afterName : List UInt8

/-- The checks of `fingerprint_rust_occurrence`. -/
def occurrenceParts (source : List UInt8) (fact : AnalyzedSymbolFact) :
    Except RustCorrespondenceError OccurrenceParts :=
  match sourceRange source fact.declarationSpan.start fact.declarationSpan.stop with
  | none => .error .invalidOccurrence
  | some declaration =>
    if fact.nameSpan.start < fact.declarationSpan.start ∨
        fact.declarationSpan.stop < fact.nameSpan.stop ∨
        sourceRange source fact.nameSpan.start fact.nameSpan.stop ≠
          some (Text.encodeUtf8 fact.name) then
      .error .invalidOccurrence
    else do
      let container ← validateNames fact.name fact.qualifiedName
      match sourceRange source fact.declarationSpan.start fact.nameSpan.start,
          sourceRange source fact.nameSpan.stop fact.declarationSpan.stop with
      | some beforeName, some afterName => .ok ⟨declaration, container, beforeName, afterName⟩
      | _, _ => .error .invalidOccurrence

def nameElidedPreimage (kind : RustSymbolKind) (parts : OccurrenceParts) : List UInt8 :=
  asciiBytes "RepoWitness\x00rust-correspondence\x00name-elided\x00v1\x00" ++
    (lengthPrefixed (asciiBytes kind.asStr) ++
      (lengthPrefixed (Text.encodeUtf8 parts.container) ++
        (lengthPrefixed parts.beforeName ++
          (lengthPrefixed (asciiBytes "<repowitness-symbol-name>") ++
            lengthPrefixed parts.afterName))))

/-! ## Fields read back -/

section Fields

variable {firstRest secondRest : List UInt8}

theorem asStr_append_inj {first second : RustSymbolKind}
    (same : lengthPrefixed (asciiBytes first.asStr) ++ firstRest =
      lengthPrefixed (asciiBytes second.asStr) ++ secondRest) :
    first = second ∧ firstRest = secondRest := by
  have short (kind : RustSymbolKind) : (asciiBytes kind.asStr).length < 256 ^ 8 := by
    cases kind <;> decide
  obtain ⟨spelled, rest⟩ := lengthPrefixed_append_inj (short first) (short second) same
  let kinds : List RustSymbolKind :=
    [.function, .method, .struct, .enum, .union, .trait, .module, .typeAlias, .constant, .static,
      .macroDefinition, .interface, .definedType, .packageVariable, .classDeclaration]
  have distinct : (kinds.map fun kind => asciiBytes kind.asStr).Nodup := by decide +kernel
  have complete (kind : RustSymbolKind) : kind ∈ kinds := by cases kind <;> decide
  exact ⟨List.inj_on_of_nodup_map distinct (complete first) (complete second) spelled, rest⟩

theorem digest_append_inj {first second : Bytes32}
    (same : first.bytes ++ firstRest = second.bytes ++ secondRest) :
    first = second ∧ firstRest = secondRest := by
  obtain ⟨number, rest⟩ := @bigEndian_append_inj 32 _ _ _ _ first.isLt second.isLt same
  exact ⟨BitVec.eq_of_toNat_eq number, rest⟩

theorem name_append_inj {first second : Text} (firstShort : first.byteLength ≤ 4096)
    (secondShort : second.byteLength ≤ 4096)
    (same : lengthPrefixed (Text.encodeUtf8 first) ++ firstRest =
      lengthPrefixed (Text.encodeUtf8 second) ++ secondRest) :
    first = second ∧ firstRest = secondRest := by
  obtain ⟨bytes, rest⟩ := lengthPrefixed_append_inj
    (by rw [Text.length_encodeUtf8]; omega) (by rw [Text.length_encodeUtf8]; omega) same
  exact ⟨Text.encodeUtf8_injective bytes, rest⟩

theorem span_append_inj {first second : ByteSpan} (firstAddressed : first.stop < 2 ^ 64)
    (secondAddressed : second.stop < 2 ^ 64)
    (same : spanBytes first ++ firstRest = spanBytes second ++ secondRest) :
    first = second ∧ firstRest = secondRest := by
  rw [spanBytes, spanBytes, List.append_assoc, List.append_assoc] at same
  obtain ⟨start, same⟩ := bigEndian_append_inj (Nat.lt_of_le_of_lt first.ordered firstAddressed)
    (Nat.lt_of_le_of_lt second.ordered secondAddressed) same
  obtain ⟨stop, rest⟩ := bigEndian_append_inj firstAddressed secondAddressed same
  cases first
  cases second
  cases start
  cases stop
  exact ⟨rfl, rest⟩

theorem correspondence_append_inj {first second : Option RustOccurrenceFingerprint}
    (same : correspondenceBytes first ++ firstRest = correspondenceBytes second ++ secondRest) :
    first = second ∧ firstRest = secondRest := by
  cases first with
  | none =>
    cases second with
    | none => exact ⟨rfl, List.append_cancel_left same⟩
    | some => cases (List.cons.inj same).1
  | some first =>
    cases second with
    | none => cases (List.cons.inj same).1
    | some second =>
      simp only [correspondenceBytes, List.append_assoc] at same
      obtain ⟨declaration, fields⟩ := digest_append_inj (List.append_cancel_left same)
      obtain ⟨nameElided, rest⟩ := digest_append_inj fields
      cases first
      cases second
      cases declaration
      cases nameElided
      exact ⟨rfl, rest⟩

/-- Facts of artifacts with one profile, each valid for its own limits. -/
theorem fact_append_inj {hasCorrespondence : Bool} {ordinal : Nat}
    {first second : AnalyzedSymbolFact}
    {firstLimits secondLimits : RustAnalysisLimits} (firstValid : first.isValid firstLimits = true)
    (secondValid : second.isValid secondLimits = true)
    (unmarked : hasCorrespondence = false → first.correspondence = second.correspondence)
    (same : factBytes hasCorrespondence ordinal first ++ firstRest =
      factBytes hasCorrespondence ordinal second ++ secondRest) :
    first = second ∧ firstRest = secondRest := by
  have short {fact : AnalyzedSymbolFact} {limits : RustAnalysisLimits}
      (valid : fact.isValid limits = true) :
      fact.name.byteLength ≤ 4096 ∧ fact.qualifiedName.byteLength ≤ 4096 := by
    have names := limits.namesBounded
    have qualifiedNames := limits.qualifiedNamesBounded
    simp only [AnalyzedSymbolFact.isValid, Bool.and_eq_true, decide_eq_true_eq] at valid
    omega
  obtain ⟨firstName, firstQualified⟩ := short firstValid
  obtain ⟨secondName, secondQualified⟩ := short secondValid
  simp only [factBytes, List.append_assoc] at same
  obtain ⟨kind, same⟩ := asStr_append_inj (List.append_cancel_left same)
  obtain ⟨name, same⟩ := name_append_inj firstName secondName same
  obtain ⟨qualifiedName, same⟩ := name_append_inj firstQualified secondQualified same
  obtain ⟨nameSpan, same⟩ := span_append_inj first.nameAddressed second.nameAddressed same
  obtain ⟨declarationSpan, same⟩ :=
    span_append_inj first.declarationAddressed second.declarationAddressed same
  have fields : first.correspondence = second.correspondence ∧ firstRest = secondRest := by
    cases hasCorrespondence with
    | true => exact correspondence_append_inj same
    | false => exact ⟨unmarked rfl, same⟩
  cases first
  cases second
  simp_all

theorem manifestEntry_append_inj
    {first second : SourceManifestEntry RepositoryPath SourceFileKind Bytes32}
    (same : sourceManifestEntryBytes first ++ firstRest =
      sourceManifestEntryBytes second ++ secondRest) :
    first = second ∧ firstRest = secondRest := by
  have addressed (path : RepositoryPath) : path.bytes.length < 256 ^ 8 :=
    Nat.lt_trans path.addressable (by decide)
  simp only [sourceManifestEntryBytes, List.append_assoc] at same
  obtain ⟨path, same⟩ :=
    lengthPrefixed_append_inj (addressed first.path) (addressed second.path) same
  obtain ⟨tag, same⟩ := List.append_inj same rfl
  obtain ⟨digest, rest⟩ := digest_append_inj same
  have kind : first.fileType = second.fileType := by
    revert tag
    cases first.fileType <;> cases second.fileType <;> decide
  obtain ⟨firstPath, firstKind, firstDigest⟩ := first
  obtain ⟨secondPath, secondKind, secondDigest⟩ := second
  obtain rfl : firstPath = secondPath := RepositoryPath.bytes_injective path
  cases kind
  cases digest
  exact ⟨rfl, rest⟩

end Fields

/-! ## Whole preimages -/

theorem sourceManifestPreimage_eq_iff (first second : CanonicalSourceManifest) :
    sourceManifestPreimage first = sourceManifestPreimage second ↔
      first.entries = second.entries := by
  constructor
  · intro same
    have counted (manifest : CanonicalSourceManifest) : manifest.entries.length < 256 ^ 8 :=
      Nat.lt_of_le_of_lt manifest.bounded manifest.limit.toNat_lt
    have fields := List.append_cancel_left (List.append_cancel_left same)
    obtain ⟨count, entries⟩ := bigEndian_append_inj (counted first) (counted second) fields
    refine (encodeEach_append_inj ?_ count (congrArg (· ++ []) entries)).1
    intro _ firstEntry _ secondEntry _ firstRest secondRest entryBytes
    exact manifestEntry_append_inj entryBytes
  · intro same
    rw [sourceManifestPreimage, sourceManifestPreimage, same]

/-- The profile starts like a zero count of visited nodes, which no analysis has. -/
theorem rustCorrespondenceProfile_begins :
    ∃ rest, rustCorrespondenceProfile = bigEndian 4 0 ++ rest := ⟨_, rfl⟩

theorem RustSourceAnalysis.counted (analysis : RustSourceAnalysis) :
    0 < analysis.visitedNodes ∧ analysis.visitedNodes < 256 ^ 4 ∧
      analysis.syntaxErrorNodes < 256 ^ 4 ∧ analysis.knownParserLimitationNodes < 256 ^ 4 ∧
      analysis.facts.length < 256 ^ 8 ∧
      ∀ fact ∈ analysis.facts, ∃ limits, fact.isValid limits = true := by
  obtain ⟨limits, accepted⟩ := analysis.accepted
  have nodes := limits.nodesBounded
  have facts := limits.factsBounded
  simp only [validAnalysisParts, Bool.and_eq_true, decide_eq_true_eq, List.all_eq_true] at accepted
  refine ⟨by omega, by omega, by omega, by omega, by omega, ?_⟩
  intro fact isFact
  exact ⟨limits, accepted.2 fact isFact⟩

/-- Whether the profile is there shows in the bytes after the version. -/
theorem profile_append_inj {firstHas secondHas : Bool} {firstVisited secondVisited : Nat}
    {firstRest secondRest : List UInt8}
    (firstNodes : 0 < firstVisited ∧ firstVisited < 256 ^ 4)
    (secondNodes : 0 < secondVisited ∧ secondVisited < 256 ^ 4)
    (same :
      (if firstHas then rustCorrespondenceProfile else []) ++
          (bigEndian 4 firstVisited ++ firstRest) =
        (if secondHas then rustCorrespondenceProfile else []) ++
          (bigEndian 4 secondVisited ++ secondRest)) :
    firstHas = secondHas ∧ firstVisited = secondVisited ∧ firstRest = secondRest := by
  obtain ⟨profileRest, profile⟩ := rustCorrespondenceProfile_begins
  have zeroFits : 0 < 256 ^ 4 := by decide
  cases firstHas <;> cases secondHas <;>
    simp only [if_true, if_false, Bool.false_eq_true, List.nil_append] at same
  case false.false => exact ⟨rfl, bigEndian_append_inj firstNodes.2 secondNodes.2 same⟩
  case true.true =>
    exact ⟨rfl, bigEndian_append_inj firstNodes.2 secondNodes.2 (List.append_cancel_left same)⟩
  case false.true =>
    rw [profile, List.append_assoc] at same
    have zero := (bigEndian_append_inj firstNodes.2 zeroFits same).1
    omega
  case true.false =>
    rw [profile, List.append_assoc] at same
    have zero := (bigEndian_append_inj zeroFits secondNodes.2 same).1
    omega

theorem analysisArtifactPreimage_injective : Function.Injective analysisArtifactPreimage := by
  intro first second same
  obtain ⟨firstVisited, firstVisitedSmall, firstErrors, firstKnown, firstCount, firstValid⟩ :=
    first.counted
  obtain ⟨secondVisited, secondVisitedSmall, secondErrors, secondKnown, secondCount, secondValid⟩ :=
    second.counted
  have fields := List.append_cancel_left (List.append_cancel_left same)
  obtain ⟨profile, visited, fields⟩ :=
    profile_append_inj ⟨firstVisited, firstVisitedSmall⟩ ⟨secondVisited, secondVisitedSmall⟩ fields
  obtain ⟨errors, fields⟩ := bigEndian_append_inj firstErrors secondErrors fields
  obtain ⟨known, fields⟩ := bigEndian_append_inj firstKnown secondKnown fields
  obtain ⟨count, fields⟩ := bigEndian_append_inj firstCount secondCount fields
  rw [← profile] at fields
  obtain ⟨facts, -⟩ : first.facts = second.facts ∧ [] = [] := by
    refine encodeEach_append_inj ?_ count (congrArg (· ++ []) fields)
    intro ordinal firstFact isFirst secondFact isSecond firstRest secondRest factSame
    obtain ⟨firstLimits, firstIsValid⟩ := firstValid firstFact isFirst
    obtain ⟨secondLimits, secondIsValid⟩ := secondValid secondFact isSecond
    refine fact_append_inj firstIsValid secondIsValid ?_ factSame
    -- Without a profile no fact of either artifact has a correspondence.
    intro unmarked
    have firstNone := List.any_eq_false.mp unmarked firstFact isFirst
    have secondNone := List.any_eq_false.mp (profile ▸ unmarked) secondFact isSecond
    simp_all
  cases first
  cases second
  simp_all

theorem container_short {name qualifiedName container : Text}
    (named : validateNames name qualifiedName = .ok container) : container.byteLength ≤ 4096 := by
  unfold validateNames at named
  split at named
  next bounded =>
    have short : qualifiedName.byteLength ≤ 1024 := by
      simp only [namesBounded, Bool.and_eq_true, decide_eq_true_eq] at bounded
      exact bounded.1.1.2
    split at named
    next isContainer =>
      cases named
      unfold symbolContainer at isContainer
      split at isContainer
      · cases isContainer
        exact Nat.zero_le _
      · obtain ⟨scope, isScope, rest⟩ := Option.bind_eq_some_iff.mp isContainer
        obtain ⟨within, isWithin, rest⟩ := Option.bind_eq_some_iff.mp rest
        have scopeShort := Text.byteLength_stripSuffix_le isScope
        have withinShort := Text.byteLength_stripSuffix_le isWithin
        split at rest
        · cases rest
        · cases rest
          omega
    next => cases named
  next => cases named

variable {source : List UInt8} {fact : AnalyzedSymbolFact} {parts : OccurrenceParts}

theorem occurrenceParts_short (accepted : occurrenceParts source fact = .ok parts) :
    parts.container.byteLength ≤ 4096 ∧ parts.beforeName.length < 256 ^ 8 ∧
      parts.afterName.length < 256 ^ 8 := by
  have rangeShort : ∀ {start stop : Nat} {bytes : List UInt8}, stop < 2 ^ 64 →
      sourceRange source start stop = some bytes → bytes.length < 256 ^ 8 := by
    intro start stop bytes addressed isRange
    unfold sourceRange at isRange
    split at isRange
    · cases isRange
      rw [slice, List.length_take]
      omega
    · cases isRange
  unfold occurrenceParts at accepted
  split at accepted
  next => cases accepted
  next =>
    split at accepted
    next => cases accepted
    next =>
      obtain ⟨container, named, accepted⟩ := except_bind_eq_ok_iff.mp accepted
      split at accepted
      next before after =>
        cases accepted
        refine ⟨container_short named, rangeShort ?_ before,
          rangeShort fact.declarationAddressed after⟩
        exact Nat.lt_of_le_of_lt fact.nameSpan.ordered fact.nameAddressed
      next => cases accepted

theorem nameElidedPreimage_eq_iff {otherSource : List UInt8} {other : AnalyzedSymbolFact}
    {otherParts : OccurrenceParts} (accepted : occurrenceParts source fact = .ok parts)
    (otherAccepted : occurrenceParts otherSource other = .ok otherParts) :
    nameElidedPreimage fact.kind parts = nameElidedPreimage other.kind otherParts ↔
      fact.kind = other.kind ∧ parts.container = otherParts.container ∧
        parts.beforeName = otherParts.beforeName ∧ parts.afterName = otherParts.afterName := by
  obtain ⟨container, before, after⟩ := occurrenceParts_short accepted
  obtain ⟨otherContainer, otherBefore, otherAfter⟩ := occurrenceParts_short otherAccepted
  constructor
  · intro same
    obtain ⟨kind, same⟩ := asStr_append_inj (List.append_cancel_left same)
    obtain ⟨sameContainer, same⟩ := name_append_inj container otherContainer same
    obtain ⟨sameBefore, same⟩ := lengthPrefixed_append_inj before otherBefore same
    have last := congrArg (· ++ []) (List.append_cancel_left same)
    exact ⟨kind, sameContainer, sameBefore, (lengthPrefixed_append_inj after otherAfter last).1⟩
  · rintro ⟨kind, sameContainer, sameBefore, sameAfter⟩
    rw [nameElidedPreimage, nameElidedPreimage, kind, sameContainer, sameBefore, sameAfter]

/--
What equal preimages tell.  A manifest's preimage determines its entries; the
limit it was checked against is not hashed.  An artifact's preimage determines
the whole analysis, and a declaration's everything but its name.
-/
theorem canonical_preimages_injective :
    (∀ first second : CanonicalSourceManifest,
      sourceManifestPreimage first = sourceManifestPreimage second ↔
        first.entries = second.entries) ∧
    (∀ first second : RustSourceAnalysis,
      analysisArtifactPreimage first = analysisArtifactPreimage second → first = second) ∧
    (∀ source otherSource fact other parts otherParts,
      occurrenceParts source fact = .ok parts → occurrenceParts otherSource other = .ok otherParts →
      (nameElidedPreimage fact.kind parts = nameElidedPreimage other.kind otherParts ↔
        fact.kind = other.kind ∧ parts.container = otherParts.container ∧
          parts.beforeName = otherParts.beforeName ∧ parts.afterName = otherParts.afterName)) := by
  refine ⟨sourceManifestPreimage_eq_iff,
    fun _ _ same => analysisArtifactPreimage_injective same, ?_⟩
  intro source otherSource fact other parts otherParts accepted otherAccepted
  exact nameElidedPreimage_eq_iff accepted otherAccepted

/-- Two empty manifests that were checked against different limits. -/
theorem manifest_limit_unhashed : ∃ first second : CanonicalSourceManifest,
      sourceManifestPreimage first = sourceManifestPreimage second ∧ first ≠ second := by
  refine ⟨⟨[], 1, .nil, by decide⟩, ⟨[], 2, .nil, by decide⟩, rfl, ?_⟩
  intro same
  cases congrArg SourceManifest.limit same

end RepoWitness
