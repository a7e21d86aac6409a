import Mathlib.Algebra.Group.Nat.Even
import RepoWitness.SourceIdentity

namespace RepoWitness

/-!
# Reference sites of Rust syntax

Both extractors of raw Rust sites visit every node of a syntax tree and decide
from its kind and its ancestors whether it is a reference.  The raw-syntax
extractor passes over a node whose parent is of a reference kind.  The graph
extractor asks whether the parent is itself a candidate, so its answer
alternates along a path: it takes every second node from the outermost down.
-/

/-- The node kinds that the extractors tell apart. -/
inductive SyntaxKind where
  | identifier | shorthandFieldIdentifier | typeIdentifier | scopedIdentifier
  | scopedTypeIdentifier | fieldExpression | genericFunction
  | useDeclaration | callExpression | macroInvocation
  | attribute | attributeItem | innerAttributeItem | tokenTree | visibilityModifier
  | tokenBindingPattern | tokenRepetitionPattern | tokenTreePattern
  | matchPattern | structPattern | tupleStructPattern | rangePattern | otherPattern
  | letDeclaration | letCondition | parameter | variadicParameter | forExpression
  | closureParameters | typeParameter | constParameter | lifetimeParameter
  | enumVariant | externCrateDeclaration | fieldDeclaration
  | functionItem | functionSignatureItem | structItem | enumItem | unionItem | traitItem
  | modItem | typeItem | constItem | staticItem | macroDefinition
  | other
  deriving DecidableEq

inductive SyntaxField where
  | argument | function | invokedMacro | condition | pattern | name | renamed | type | left | right
  deriving DecidableEq

structure SyntaxNode where
  kind : SyntaxKind
  isError : Bool
  isMissing : Bool
  byteRange : Nat × Nat
  fields : List (SyntaxField × (Nat × Nat))

namespace SyntaxNode

def rangeContains (outer inner : Nat × Nat) : Bool :=
  outer.1 ≤ inner.1 && inner.2 ≤ outer.2

/-- `node_within_field`, which the raw-syntax extractor calls `node_in_field`. -/
def nodeWithinField (ancestor : SyntaxNode) (field : SyntaxField) (node : SyntaxNode) : Bool :=
  (ancestor.fields.lookup field).any (rangeContains · node.byteRange)

/-- The kinds of `is_rust_reference_candidate`, with which `is_reference_candidate` begins. -/
def isReferenceKind (node : SyntaxNode) : Bool :=
  node.kind ∈
    [.identifier, .shorthandFieldIdentifier, .typeIdentifier, .scopedIdentifier,
      .scopedTypeIdentifier, .fieldExpression, .genericFunction]

/-- `definition_kind(node).is_some()`. -/
def isDefinition (node : SyntaxNode) : Bool :=
  node.kind ∈
    [.functionItem, .functionSignatureItem, .structItem, .enumItem, .unionItem, .traitItem,
      .modItem, .typeItem, .constItem, .staticItem, .macroDefinition]

/-! ## The graph extractor -/

/-- The candidate test, with the ancestors of the node from its parent up. -/
def isReferenceCandidate (node : SyntaxNode) : List SyntaxNode → Bool
  | [] => node.isReferenceKind
  | parent :: above => node.isReferenceKind && !parent.isReferenceCandidate above

def isPatternReference (node : SyntaxNode) (ancestors : List SyntaxNode) : Bool :=
  node.kind ∈ [.scopedIdentifier, .scopedTypeIdentifier] || search ancestors
where
  search : List SyntaxNode → Bool
    | [] => false
    | current :: above =>
      match current.kind with
      | .structPattern | .tupleStructPattern =>
        current.nodeWithinField .type node || search above
      | .rangePattern =>
        current.nodeWithinField .left node || current.nodeWithinField .right node || search above
      | .tokenBindingPattern | .tokenRepetitionPattern | .tokenTreePattern => false
      | _ => search above

/-- `excludes_reference`, told whether the ancestor is the parent of the node. -/
def excludesReference (ancestor : SyntaxNode) (isParent : Bool) (node : SyntaxNode)
    (ancestors : List SyntaxNode) : Bool :=
  let within (field : SyntaxField) := ancestor.nodeWithinField field node
  match ancestor.kind with
  | .attribute | .attributeItem | .innerAttributeItem | .tokenTree | .visibilityModifier
  | .tokenBindingPattern | .tokenRepetitionPattern | .tokenTreePattern => true
  | .matchPattern => !within .condition && !node.isPatternReference ancestors
  | .structPattern | .tupleStructPattern | .rangePattern | .otherPattern =>
    !node.isPatternReference ancestors
  | .useDeclaration => within .argument
  | .callExpression => within .function
  | .macroInvocation => within .invokedMacro
  | .letDeclaration | .letCondition | .parameter | .variadicParameter | .forExpression =>
    within .pattern && !node.isPatternReference ancestors
  | .closureParameters => isParent && !node.isPatternReference ancestors
  | .typeParameter | .constParameter | .lifetimeParameter | .enumVariant | .fieldDeclaration =>
    within .name
  | .externCrateDeclaration => within .name || within .renamed
  | _ => ancestor.isDefinition && within .name

def isExcludedReference (node : SyntaxNode) (ancestors : List SyntaxNode) : Bool :=
  match ancestors with
  | [] => false
  | parent :: above =>
    parent.excludesReference true node ancestors ||
      above.any (·.excludesReference false node ancestors)

end SyntaxNode

/--
What the functions that build sites return at a node.  They read its source
text and its surroundings.
-/
structure BuiltSites (Error Site : Type) where
  conditionalTestMarker : Except Error (Option Site)
  testMarker : Except Error (Option Site)
  fieldSite : SyntaxField → Except Error (Option Site)
  siteFromNode : Except Error Site

section Extraction

open SyntaxNode

variable {Error Site : Type} (built : BuiltSites Error Site) (node : SyntaxNode)
  (ancestors : List SyntaxNode)

def ofKind (kind : RustGraphSiteKind) (site : Except Error (Option Site)) :
    Except Error (Option (RustGraphSiteKind × Site)) :=
  site.map (·.map (kind, ·))

/-- The dispatch over the kind of a node, after the test for a conditional marker. -/
def siteOfKind : Except Error (Option (RustGraphSiteKind × Site)) :=
  match node.kind with
  | .useDeclaration => ofKind .importSite (built.fieldSite .argument)
  | .callExpression => ofKind .call (built.fieldSite .function)
  | .macroInvocation => ofKind .macroCall (built.fieldSite .invokedMacro)
  | .attributeItem | .innerAttributeItem => ofKind .testMarker built.testMarker
  | _ =>
    if node.isReferenceCandidate ancestors && !node.isExcludedReference ancestors then
      ofKind .reference (built.siteFromNode.map some)
    else
      .ok none

def extractSite : Except Error (Option (RustGraphSiteKind × Site)) :=
  if node.isError || node.isMissing then
    .ok none
  else if node.kind = .identifier then
    match built.conditionalTestMarker with
    | .error error => .error error
    | .ok (some site) => .ok (some (.testMarker, site))
    | .ok none => siteOfKind built node ancestors
  else
    siteOfKind built node ancestors

/-! ## The raw-syntax extractor -/

/-- The ancestors below which `is_rust_reference` takes no reference. -/
def hidesRustReference (ancestor : SyntaxNode) : Bool :=
  let within (field : SyntaxField) := ancestor.nodeWithinField field node
  match ancestor.kind with
  | .attribute | .attributeItem | .innerAttributeItem | .visibilityModifier | .tokenTree => true
  | .useDeclaration => within .argument
  | .callExpression => within .function
  | .macroInvocation => within .invokedMacro
  | .letDeclaration | .parameter | .variadicParameter => within .pattern
  | .functionItem | .functionSignatureItem | .structItem | .enumItem | .traitItem | .modItem
  | .typeItem | .constItem | .staticItem => within .name
  | _ => false

def isRustReference : Bool :=
  !ancestors.head?.any isReferenceKind && !ancestors.any (hidesRustReference node)

/-! ## Which nodes of a path are taken -/

/-- How many nodes of reference kinds stand directly above a node. -/
def referencesAbove : Nat :=
  (ancestors.takeWhile isReferenceKind).length

/-- The graph extractor reports a reference at the node. -/
def EmitsReference : Prop :=
  ∃ site, extractSite built node ancestors = .ok (some (.reference, site))

/-- A reference but for the candidate test: only the nodes above could rule the node out. -/
structure Referable : Prop where
  sound : (node.isError || node.isMissing) = false
  unmarked : node.kind = .identifier → built.conditionalTestMarker = .ok none
  kind : node.isReferenceKind = true
  included : node.isExcludedReference ancestors = false
  builds : ∃ site, built.siteFromNode = .ok site

theorem isReferenceCandidate_iff :
    node.isReferenceCandidate ancestors = true ↔
      node.isReferenceKind = true ∧ Even (referencesAbove ancestors) := by
  induction ancestors generalizing node with
  | nil => simp [isReferenceCandidate, referencesAbove]
  | cons parent above hypothesis =>
    rw [isReferenceCandidate, Bool.and_eq_true, Bool.not_eq_true', ← Bool.not_eq_true,
      hypothesis, not_and]
    refine and_congr_right fun _ => ?_
    by_cases isReference : parent.isReferenceKind = true
    · simp [referencesAbove, isReference, Nat.even_add_one]
    · simp [referencesAbove, isReference]

theorem ofKind_eq_reference_iff {kind : RustGraphSiteKind} {made : Except Error (Option Site)}
    {site : Site} :
    ofKind kind made = .ok (some (.reference, site)) ↔
      kind = .reference ∧ made = .ok (some site) := by
  rcases made with error | (_ | other) <;> simp [ofKind, Except.map]

theorem siteOfKind_reference_iff {site : Site} :
    siteOfKind built node ancestors = .ok (some (.reference, site)) ↔
      node.isReferenceCandidate ancestors = true ∧ node.isExcludedReference ancestors = false ∧
        built.siteFromNode = .ok site := by
  have unrelated (isOther : node.isReferenceKind = false) :
      ¬ node.isReferenceCandidate ancestors = true := by
    simp [isReferenceCandidate_iff, isOther]
  unfold siteOfKind
  split
  case h_6 =>
    split
    next taken =>
      rw [Bool.and_eq_true, Bool.not_eq_true'] at taken
      cases built.siteFromNode <;> simp [ofKind, Except.map, taken]
    next refused =>
      rw [Bool.and_eq_true, Bool.not_eq_true'] at refused
      simp only [Except.ok.injEq, reduceCtorEq, false_iff]
      exact fun taken => refused ⟨taken.1, taken.2.1⟩
  all_goals
    rename_i isKind
    simp [ofKind_eq_reference_iff, unrelated (by simp [isReferenceKind, isKind])]

theorem extractSite_reference_iff {site : Site} :
    extractSite built node ancestors = .ok (some (.reference, site)) ↔
      (node.isError || node.isMissing) = false ∧
        (node.kind = .identifier → built.conditionalTestMarker = .ok none) ∧
        siteOfKind built node ancestors = .ok (some (.reference, site)) := by
  unfold extractSite
  cases node.isError || node.isMissing with
  | true => simp
  | false =>
    by_cases isIdentifier : node.kind = .identifier
    · rcases built.conditionalTestMarker with error | (_ | marker) <;> simp [isIdentifier]
    · simp [isIdentifier]

theorem emitsReference_iff :
    EmitsReference built node ancestors ↔
      Referable built node ancestors ∧ Even (referencesAbove ancestors) := by
  simp only [EmitsReference, extractSite_reference_iff, siteOfKind_reference_iff,
    isReferenceCandidate_iff]
  constructor
  · rintro ⟨site, sound, unmarked, ⟨kind, even⟩, included, builds⟩
    exact ⟨⟨sound, unmarked, kind, included, site, builds⟩, even⟩
  · rintro ⟨⟨sound, unmarked, kind, included, site, builds⟩, even⟩
    exact ⟨site, sound, unmarked, ⟨kind, even⟩, included, builds⟩

/-- The parent is of a reference kind exactly when some such node stands directly above. -/
theorem parent_isReferenceKind_iff :
    ancestors.head?.any isReferenceKind = true ↔ referencesAbove ancestors ≠ 0 := by
  cases ancestors with
  | nil => simp [referencesAbove]
  | cons parent above => by_cases isReference : parent.isReferenceKind = true <;>
      simp [referencesAbove, isReference]

/--
A reference is reported for the outermost node of a path only, unless an even
and positive number of nodes of reference kinds stands above a node that is
otherwise a reference.  The raw-syntax extractor always keeps to the outermost.
-/
theorem reference_outermost_iff :
    ((EmitsReference built node ancestors → ancestors.head?.any isReferenceKind = false) ↔
        (Referable built node ancestors →
          referencesAbove ancestors = 0 ∨ Odd (referencesAbove ancestors))) ∧
      (isRustReference node ancestors = true → ancestors.head?.any isReferenceKind = false) := by
  refine ⟨?_, fun reference => ?_⟩
  · rw [emitsReference_iff, ← Bool.not_eq_true, parent_isReferenceKind_iff, not_not, and_imp]
    refine imp_congr_right fun _ => ?_
    rw [← Nat.not_even_iff_odd, or_comm, ← imp_iff_not_or]
  · rw [isRustReference, Bool.and_eq_true, Bool.not_eq_true'] at reference
    exact reference.1

end Extraction

/-! ## A path of three segments -/

namespace ThreeSegments

/-- A node without fields. -/
def leaf (kind : SyntaxKind) (start stop : Nat) : SyntaxNode :=
  ⟨kind, false, false, (start, stop), []⟩

/-- The ancestors of `a` in `fn f() { let x = a::b::c; }`. -/
def ancestors : List SyntaxNode :=
  [leaf .scopedIdentifier 17 21, leaf .scopedIdentifier 17 24,
    { leaf .letDeclaration 9 25 with fields := [(.pattern, (13, 14))] }, leaf .other 7 27,
    { leaf .functionItem 0 27 with fields := [(.name, (3, 4))] }, leaf .other 0 27]

/-- Sites are built without error, and none is a test marker. -/
def built : BuiltSites Empty Unit :=
  ⟨.ok none, .ok none, fun _ => .ok none, .ok ()⟩

/-- The graph extractor reports the first segment of `a::b::c`, two paths below the outermost. -/
theorem first_segment_reported :
    EmitsReference built (leaf .identifier 17 18) ancestors ∧
      ancestors.head?.any SyntaxNode.isReferenceKind = true ∧
      isRustReference (leaf .identifier 17 18) ancestors = false :=
  ⟨⟨(), rfl⟩, rfl, rfl⟩

end ThreeSegments

end RepoWitness
