import RepoWitness.RepositoryPath

namespace RepoWitness

open Std

/-!
# Exact identities of indexed declarations and raw sites

The identities are the ones the graph traversal orders, compares and returns.
An opaque 32-byte value is ordered bytewise, which is the order of the
big-endian number it spells.  `derive(Ord)` on a structure compares its fields
in declaration order; each comparator below lists them in that order.
-/

/-- An opaque 32-byte identity or digest. -/
abbrev Bytes32 := BitVec 256

/-- Half-open byte range with ordered endpoints. -/
structure ByteSpan where
  start : Nat
  stop : Nat
  ordered : start ≤ stop
  deriving DecidableEq

namespace ByteSpan

def isEmpty (span : ByteSpan) : Bool := span.start == span.stop

def cmp : ByteSpan → ByteSpan → Ordering := compareLex (compareOn start) (compareOn stop)

instance : Ord ByteSpan where
  compare := cmp

instance : TransOrd ByteSpan :=
  inferInstanceAs (TransCmp (compareLex (compareOn start) (compareOn stop)))

instance : LawfulEqOrd ByteSpan where
  eq_of_compare {first second} same := by
    change cmp first second = .eq at same
    simp only [cmp, compareLex_eq_eq, compareOn, LawfulEqOrd.compare_eq_iff_eq] at same
    cases first
    cases second
    simp_all

end ByteSpan

/-- The outer span covers the inner one. -/
def spanContains (outer inner : ByteSpan) : Bool :=
  decide (outer.start ≤ inner.start) && decide (inner.stop ≤ outer.stop)

/-- Declaration categories emitted by the built-in adapters. -/
inductive RustSymbolKind where
  | function
  | method
  | struct
  | enum
  | union
  | trait
  | module
  | typeAlias
  | constant
  | static
  | macroDefinition
  | interface
  | definedType
  | packageVariable
  | classDeclaration
  deriving DecidableEq

/-- Artifact-local graph-site categories. -/
inductive RustGraphSiteKind where
  | importSite
  | reference
  | call
  | macroCall
  | testMarker
  deriving DecidableEq

/-- Evidence supporting one raw site classification. -/
inductive RustGraphSiteEvidence where
  | directSyntax
  | syntaxHeuristic
  deriving DecidableEq

/-- Evidence supporting one candidate relationship. -/
inductive RustGraphResolutionEvidence where
  | qualifiedSyntax
  | lexicalSyntax
  | importSyntax
  | exactNameHeuristic
  deriving DecidableEq

instance : Ord RustSymbolKind where
  compare := compareOn RustSymbolKind.ctorIdx

instance : TransOrd RustSymbolKind := inferInstanceAs (TransCmp (compareOn RustSymbolKind.ctorIdx))

instance : LawfulEqOrd RustSymbolKind :=
  lawfulEqCmp_compareOn (by
    intro first second same
    cases first <;> cases second <;>
      first
        | rfl
        | cases same)

instance : Ord RustGraphSiteKind where
  compare := compareOn RustGraphSiteKind.ctorIdx

instance : TransOrd RustGraphSiteKind :=
  inferInstanceAs (TransCmp (compareOn RustGraphSiteKind.ctorIdx))

instance : LawfulEqOrd RustGraphSiteKind :=
  lawfulEqCmp_compareOn (by
    intro first second same
    cases first <;> cases second <;>
      first
        | rfl
        | cases same)

instance : Ord RustGraphSiteEvidence where
  compare := compareOn RustGraphSiteEvidence.ctorIdx

instance : TransOrd RustGraphSiteEvidence :=
  inferInstanceAs (TransCmp (compareOn RustGraphSiteEvidence.ctorIdx))

instance : LawfulEqOrd RustGraphSiteEvidence :=
  lawfulEqCmp_compareOn (by
    intro first second same
    cases first <;> cases second <;>
      first
        | rfl
        | cases same)

instance : Ord RustGraphResolutionEvidence where
  compare := compareOn RustGraphResolutionEvidence.ctorIdx

instance : TransOrd RustGraphResolutionEvidence :=
  inferInstanceAs (TransCmp (compareOn RustGraphResolutionEvidence.ctorIdx))

instance : LawfulEqOrd RustGraphResolutionEvidence :=
  lawfulEqCmp_compareOn (by
    intro first second same
    cases first <;> cases second <;>
      first
        | rfl
        | cases same)

/-- The largest fact ordinal an identity may carry. -/
def maxMemoryInteroperableInteger : Nat := 9007199254740991

theorem byte_interoperable (ordinal : UInt8) :
    ordinal.toNat ≤ maxMemoryInteroperableInteger := by
  have bound := ordinal.toNat_lt
  unfold maxMemoryInteroperableInteger
  omega

/-- Exact generation-local identity of one declaration target. -/
structure RustGraphDefinitionIdentity where
  sourceSlot : Bytes32
  path : RepositoryPath
  artifact : Bytes32
  factOrdinal : Nat
  kind : RustSymbolKind
  nameSpan : ByteSpan
  declarationSpan : ByteSpan
  ordinalBounded : factOrdinal ≤ maxMemoryInteroperableInteger
  rustPath : path.isRustPath = true
  nameNonempty : nameSpan.isEmpty = false
  nameInside : spanContains declarationSpan nameSpan = true
  deriving DecidableEq

namespace RustGraphDefinitionIdentity

def cmp : RustGraphDefinitionIdentity →
      RustGraphDefinitionIdentity → Ordering :=
  compareLex (compareOn sourceSlot) <|
  compareLex (compareOn path) <|
  compareLex (compareOn artifact) <|
  compareLex (compareOn factOrdinal) <|
  compareLex (compareOn kind) <|
  compareLex (compareOn nameSpan) (compareOn declarationSpan)

instance : Ord RustGraphDefinitionIdentity where
  compare := cmp

instance : TransOrd RustGraphDefinitionIdentity := inferInstanceAs (TransCmp (compareLex _ _))

instance : LawfulEqOrd RustGraphDefinitionIdentity where
  eq_of_compare {first second} same := by
    change cmp first second = .eq at same
    simp only [cmp, compareLex_eq_eq, compareOn, LawfulEqOrd.compare_eq_iff_eq] at same
    cases first
    cases second
    simp_all

end RustGraphDefinitionIdentity

/-- Exact generation-local identity of one raw site. -/
structure RustGraphSiteIdentity where
  sourceSlot : Bytes32
  path : RepositoryPath
  artifact : Bytes32
  ordinal : Nat
  kind : RustGraphSiteKind
  occurrenceSpan : ByteSpan
  targetSpan : ByteSpan
  rustPath : path.isRustPath = true
  targetNonempty : targetSpan.isEmpty = false
  targetInside : spanContains occurrenceSpan targetSpan = true
  deriving DecidableEq

namespace RustGraphSiteIdentity

def cmp : RustGraphSiteIdentity → RustGraphSiteIdentity → Ordering :=
  compareLex (compareOn sourceSlot) <|
  compareLex (compareOn path) <|
  compareLex (compareOn artifact) <|
  compareLex (compareOn ordinal) <|
  compareLex (compareOn kind) <|
  compareLex (compareOn occurrenceSpan) (compareOn targetSpan)

instance : Ord RustGraphSiteIdentity where
  compare := cmp

instance : TransOrd RustGraphSiteIdentity := inferInstanceAs (TransCmp (compareLex _ _))

instance : LawfulEqOrd RustGraphSiteIdentity where
  eq_of_compare {first second} same := by
    change cmp first second = .eq at same
    simp only [cmp, compareLex_eq_eq, compareOn, LawfulEqOrd.compare_eq_iff_eq] at same
    cases first
    cases second
    simp_all

end RustGraphSiteIdentity

end RepoWitness
