import RepoWitness.MemoryRecordModel

namespace RepoWitness

open Std

/-!
# Correspondence of cited declarations

`resolve_rust_correspondence`: one historical subject against a bounded set of
current candidates.  The first rule that matches decides: an exact occurrence, a
rename or a Git-proven move, a changed declaration, then plausible candidates
that need a review.
-/

structure RustOccurrenceFingerprint where
  declaration : Bytes32
  nameElided : Bytes32
  deriving DecidableEq

inductive RustPathContinuity where
  | none
  | gitExactMove
  deriving DecidableEq

inductive RustAutomaticCorrespondence where
  | renamed
  | moved
  deriving DecidableEq

inductive RustCorrespondenceIndeterminateReason where
  | candidateOverflow
  | missingSubjectFingerprint
  deriving DecidableEq

inductive RustCorrespondenceError where
  | invalidOccurrence
  | candidateLimitExceeded
  | invalidCandidateCount
  | duplicateCandidate
  deriving DecidableEq

def maxRustCorrespondenceCandidates : Nat := 16

def maxCorrespondenceNameBytes : Nat := 256

def maxCorrespondenceQualifiedNameBytes : Nat := 1024

/-! ## Names and their containers -/

/-- `char::is_control`: the general category `Cc`. -/
def Text.isControl (character : Char) : Bool :=
  decide (character.toNat < 0x20) || decide (0x7F ≤ character.toNat ∧ character.toNat < 0xA0)

def symbolContainer (name qualifiedName : Text) : Option Text :=
  if qualifiedName = name then
    some []
  else do
    let scope ← Text.stripSuffix name qualifiedName
    let container ← Text.stripSuffix Text.separator scope
    if container = [] then none else some container

def namesBounded (name qualifiedName : Text) : Bool := !name.isEmpty &&
    decide (name.byteLength ≤ maxCorrespondenceNameBytes) &&
    !qualifiedName.isEmpty &&
    decide (qualifiedName.byteLength ≤ maxCorrespondenceQualifiedNameBytes) &&
    !name.any Text.isControl && !qualifiedName.any Text.isControl

def validateNames (name qualifiedName : Text) : Except RustCorrespondenceError Text :=
  if namesBounded name qualifiedName then
    match symbolContainer name qualifiedName with
    | some container => .ok container
    | none => .error .invalidOccurrence
  else
    .error .invalidOccurrence

/-! ## Subjects and candidates -/

/-- Historical evidence reduced to the fields the rules compare. -/
structure RustCorrespondenceSubject where
  path : RepositoryPath
  kind : RustSymbolKind
  name : Text
  qualifiedName : Text
  container : Text
  declaration : Bytes32
  nameElided : Option Bytes32
  deriving DecidableEq

/-- One exact current occurrence, built from a validated syntax fact. -/
structure RustCorrespondenceCandidate where
  path : RepositoryPath
  artifact : Bytes32
  factOrdinal : Nat
  kind : RustSymbolKind
  name : Text
  qualifiedName : Text
  container : Text
  fingerprint : RustOccurrenceFingerprint
  pathContinuity : RustPathContinuity
  ordinalBounded : factOrdinal ≤ maxMemoryInteroperableInteger
  named : validateNames name qualifiedName = .ok container

namespace RustCorrespondenceCandidate

/-- The fields that identify one occurrence. -/
structure Identity where
  path : RepositoryPath
  artifact : Bytes32
  factOrdinal : Nat
  deriving DecidableEq

namespace Identity

def cmp : Identity → Identity → Ordering :=
  compareLex (compareOn path) <|
  compareLex (compareOn artifact) (compareOn factOrdinal)

instance : Ord Identity where
  compare := cmp

instance : TransOrd Identity := inferInstanceAs (TransCmp (compareLex _ _))

instance : LawfulEqOrd Identity where
  eq_of_compare {first second} same := by
    change cmp first second = .eq at same
    simp only [cmp, compareLex_eq_eq, compareOn, LawfulEqOrd.compare_eq_iff_eq] at same
    cases first
    cases second
    simp_all

end Identity

def identity (candidate : RustCorrespondenceCandidate) : Identity :=
  ⟨candidate.path, candidate.artifact, candidate.factOrdinal⟩

def order : RustCorrespondenceCandidate → RustCorrespondenceCandidate → Ordering :=
  compareOn identity

end RustCorrespondenceCandidate

inductive RustCorrespondenceResolution where
  | exact (target : RustCorrespondenceCandidate)
  | automatic (relationship : RustAutomaticCorrespondence) (target : RustCorrespondenceCandidate)
  | changed (target : RustCorrespondenceCandidate)
  | needsReview (candidates : List RustCorrespondenceCandidate)
  | missing
  | indeterminate (reason : RustCorrespondenceIndeterminateReason)

/-! ## The rules -/

section Rules

variable (subject : RustCorrespondenceSubject) (candidate : RustCorrespondenceCandidate)

def exactMatch : Bool :=
  candidate.path == subject.path && candidate.kind == subject.kind &&
    candidate.name == subject.name &&
    candidate.qualifiedName == subject.qualifiedName &&
    candidate.fingerprint.declaration == subject.declaration

def renameMatch : Bool :=
  candidate.path == subject.path && candidate.kind == subject.kind &&
    candidate.container == subject.container &&
    candidate.name != subject.name &&
    subject.nameElided == some candidate.fingerprint.nameElided

def moveMatch : Bool := candidate.path != subject.path &&
    candidate.pathContinuity == .gitExactMove &&
    candidate.kind == subject.kind && candidate.name == subject.name &&
    candidate.qualifiedName == subject.qualifiedName &&
    candidate.fingerprint.declaration == subject.declaration

def changedMatch : Bool :=
  candidate.path == subject.path && candidate.kind == subject.kind &&
    candidate.name == subject.name &&
    candidate.qualifiedName == subject.qualifiedName &&
    candidate.fingerprint.declaration != subject.declaration

def plausibleMatch : Bool := candidate.kind == subject.kind &&
    (candidate.path == subject.path ||
      candidate.container == subject.container ||
      candidate.fingerprint.declaration == subject.declaration ||
      subject.nameElided == some candidate.fingerprint.nameElided ||
      candidate.pathContinuity == .gitExactMove)

end Rules

def uniqueOrReview (unique : RustCorrespondenceCandidate → RustCorrespondenceResolution) :
    List RustCorrespondenceCandidate → Option RustCorrespondenceResolution
  | [] => none
  | [candidate] => some (unique candidate)
  | candidates => some (.needsReview candidates)

def dedupByIdentity : List (RustAutomaticCorrespondence × RustCorrespondenceCandidate) →
      List (RustAutomaticCorrespondence × RustCorrespondenceCandidate)
  | [] => []
  | first :: rest =>
    match dedupByIdentity rest with
    | [] => [first]
    | second :: others =>
      if first.2.identity = second.2.identity then
        first :: others
      else
        first :: second :: others

/-- Renames and moves in candidate order. -/
def automaticMatches (subject : RustCorrespondenceSubject)
    (ordered : List RustCorrespondenceCandidate) :
    List (RustAutomaticCorrespondence × RustCorrespondenceCandidate) :=
  dedupByIdentity
    (sortBy (fun left right => RustCorrespondenceCandidate.order left.2 right.2)
      ((ordered.filter (renameMatch subject)).map (.renamed, ·) ++
        (ordered.filter (moveMatch subject)).map (.moved, ·)))

/-- What is left when no automatic rule decided. -/
def resolveUnmatched (subject : RustCorrespondenceSubject)
    (ordered : List RustCorrespondenceCandidate) :
    RustCorrespondenceResolution :=
  match uniqueOrReview .changed (ordered.filter (changedMatch subject)) with
  | some resolution => resolution
  | none =>
    if ordered.filter (plausibleMatch subject) ≠ [] then
      .needsReview (ordered.filter (plausibleMatch subject))
    else if subject.nameElided = none then
      .indeterminate .missingSubjectFingerprint
    else
      .missing

/-- The rules over a complete candidate set. -/
def resolveComplete (subject : RustCorrespondenceSubject)
    (ordered : List RustCorrespondenceCandidate) :
    RustCorrespondenceResolution :=
  match uniqueOrReview .exact (ordered.filter (exactMatch subject)) with
  | some resolution => resolution
  | none =>
    match automaticMatches subject ordered with
    | [(relationship, target)] => .automatic relationship target
    | [] => resolveUnmatched subject ordered
    | several => .needsReview (several.map (·.2))

def resolveRustCorrespondence (subject : RustCorrespondenceSubject)
    (candidates : List RustCorrespondenceCandidate) (candidateCountBeforeLimit : Nat) :
    Except RustCorrespondenceError RustCorrespondenceResolution :=
  if maxRustCorrespondenceCandidates < candidates.length then
    .error .candidateLimitExceeded
  else if candidateCountBeforeLimit < candidates.length then
    .error .invalidCandidateCount
  else if hasDuplicates
      ((sortBy RustCorrespondenceCandidate.order candidates).map (·.identity)) then
    .error .duplicateCandidate
  else if candidates.length < candidateCountBeforeLimit then
    .ok (.indeterminate .candidateOverflow)
  else
    .ok (resolveComplete subject (sortBy RustCorrespondenceCandidate.order candidates))

/-! ## Precision -/

/-- Exactly one candidate satisfies the rule. -/
def OnlyMatch (candidates : List RustCorrespondenceCandidate)
    (rule : RustCorrespondenceCandidate → Bool) (target : RustCorrespondenceCandidate) : Prop :=
  candidates.filter rule = [target]

/-- No candidate satisfies the rule. -/
def NoMatch (candidates : List RustCorrespondenceCandidate)
    (rule : RustCorrespondenceCandidate → Bool) : Prop :=
  ∀ candidate ∈ candidates, rule candidate = false

/--
A match is the only one of its rule, and no rule before it applies; an automatic
match is the only one of both automatic rules.
-/
def Justified (subject : RustCorrespondenceSubject)
    (candidates : List RustCorrespondenceCandidate) : RustCorrespondenceResolution → Prop
  | .exact target => OnlyMatch candidates (exactMatch subject) target
  | .automatic .renamed target =>
    OnlyMatch candidates (renameMatch subject) target ∧
      NoMatch candidates (exactMatch subject) ∧ NoMatch candidates (moveMatch subject)
  | .automatic .moved target =>
    OnlyMatch candidates (moveMatch subject) target ∧
      NoMatch candidates (exactMatch subject) ∧ NoMatch candidates (renameMatch subject)
  | .changed target =>
    OnlyMatch candidates (changedMatch subject) target ∧
      NoMatch candidates (exactMatch subject) ∧ NoMatch candidates (renameMatch subject) ∧
        NoMatch candidates (moveMatch subject)
  | .missing => NoMatch candidates (plausibleMatch subject)
  | .needsReview _ | .indeterminate _ => True

section Precision

variable {subject : RustCorrespondenceSubject}
  {candidates ordered : List RustCorrespondenceCandidate}
  {rule : RustCorrespondenceCandidate → Bool} {resolution : RustCorrespondenceResolution}

theorem noMatch_iff : NoMatch candidates rule ↔ candidates.filter rule = [] := by
  simp [NoMatch, List.filter_eq_nil_iff]

theorem OnlyMatch.of_perm {target : RustCorrespondenceCandidate} (perm : ordered.Perm candidates)
    (only : OnlyMatch ordered rule target) : OnlyMatch candidates rule target := by
  have arranged := (perm.filter rule).symm
  rw [OnlyMatch] at only
  rw [only] at arranged
  exact List.perm_singleton.mp arranged

theorem Justified.of_perm (perm : ordered.Perm candidates)
    (justified : Justified subject ordered resolution) :
    Justified subject candidates resolution := by
  have absent : ∀ {rule}, NoMatch ordered rule → NoMatch candidates rule :=
    fun unmatched candidate isCandidate => unmatched candidate (perm.mem_iff.mpr isCandidate)
  match resolution, justified with
  | .exact _, only => exact OnlyMatch.of_perm perm only
  | .automatic .renamed _, ⟨only, exact, other⟩ | .automatic .moved _, ⟨only, exact, other⟩ =>
    exact ⟨only.of_perm perm, absent exact, absent other⟩
  | .changed _, ⟨only, exact, renamed, moved⟩ =>
    exact ⟨only.of_perm perm, absent exact, absent renamed, absent moved⟩
  | .missing, implausible => exact absent implausible
  | .needsReview _, _ | .indeterminate _, _ => trivial

variable {unique : RustCorrespondenceCandidate → RustCorrespondenceResolution}

theorem uniqueOrReview_cases (resolved : uniqueOrReview unique candidates = some resolution) :
    (∃ target, candidates = [target] ∧ resolution = unique target) ∨
      resolution = .needsReview candidates := by
  match candidates with
  | [] => cases resolved
  | [candidate] => exact .inl ⟨candidate, rfl, (Option.some.inj resolved).symm⟩
  | _ :: _ :: _ => exact .inr (Option.some.inj resolved).symm

theorem uniqueOrReview_eq_none
    (unresolved : uniqueOrReview unique candidates = none) : candidates = [] := by
  match candidates with
  | [] => rfl
  | [_] | _ :: _ :: _ => cases unresolved

theorem dedupByIdentity_of_nodup
    {pairs : List (RustAutomaticCorrespondence × RustCorrespondenceCandidate)}
    (distinct : (pairs.map (·.2.identity)).Nodup) :
    dedupByIdentity pairs = pairs := by
  induction pairs with
  | nil => rfl
  | cons first rest hypothesis =>
    rw [List.map_cons, List.nodup_cons] at distinct
    rw [dedupByIdentity, hypothesis distinct.2]
    cases rest with
    | nil => rfl
    | cons second others =>
      have different : first.2.identity ≠ second.2.identity := by
        intro same
        exact distinct.1 (by simp [same])
      simp only [different, if_false]

/-- A rename keeps the path and a move changes it, so nothing is matched twice. -/
theorem automaticMatches_perm (distinct : (ordered.map (·.identity)).Nodup) :
    (automaticMatches subject ordered).Perm
      ((ordered.filter (renameMatch subject)).map (.renamed, ·) ++
        (ordered.filter (moveMatch subject)).map (.moved, ·)) := by
  have arranged := sortBy_perm
    (fun left right : RustAutomaticCorrespondence × RustCorrespondenceCandidate =>
      RustCorrespondenceCandidate.order left.2 right.2)
    ((ordered.filter (renameMatch subject)).map (.renamed, ·) ++
      (ordered.filter (moveMatch subject)).map (.moved, ·))
  have kept : ∀ rule, ((ordered.filter rule).map (·.identity)).Nodup := fun rule =>
    distinct.sublist (List.filter_sublist.map _)
  have identities :
      (((ordered.filter (renameMatch subject)).map (RustAutomaticCorrespondence.renamed, ·) ++
          (ordered.filter (moveMatch subject)).map (RustAutomaticCorrespondence.moved, ·)).map
        (·.2.identity)).Nodup := by
    simp only [List.map_append, List.map_map]
    refine List.nodup_append.mpr ⟨kept _, kept _, ?_⟩
    intro first isFirst second isSecond same
    obtain ⟨renamed, isRenamed, rfl⟩ := List.mem_map.mp isFirst
    obtain ⟨moved, isMoved, rfl⟩ := List.mem_map.mp isSecond
    have stayed := (List.mem_filter.mp isRenamed).2
    have left := (List.mem_filter.mp isMoved).2
    simp only [renameMatch, Bool.and_eq_true, beq_iff_eq] at stayed
    simp only [moveMatch, Bool.and_eq_true, bne_iff_ne] at left
    have samePath := congrArg RustCorrespondenceCandidate.Identity.path same
    exact left.1.1.1.1.1 (samePath.symm.trans stayed.1.1.1.1)
  rw [automaticMatches,
    dedupByIdentity_of_nodup ((arranged.map (·.2.identity)).nodup_iff.mpr identities)]
  exact arranged

theorem resolveUnmatched_justified (exact : NoMatch ordered (exactMatch subject))
    (renamed : NoMatch ordered (renameMatch subject))
    (moved : NoMatch ordered (moveMatch subject)) :
    Justified subject ordered (resolveUnmatched subject ordered) := by
  unfold resolveUnmatched
  split
  next resolved =>
    rcases uniqueOrReview_cases resolved with ⟨target, only, rfl⟩ | rfl
    · exact ⟨only, exact, renamed, moved⟩
    · trivial
  next =>
    split
    next => trivial
    next implausible =>
      split
      · trivial
      · exact noMatch_iff.mpr (not_not.mp implausible)

theorem resolveComplete_justified (distinct : (ordered.map (·.identity)).Nodup) :
    Justified subject ordered (resolveComplete subject ordered) := by
  have arranged := @automaticMatches_perm subject _ distinct
  unfold resolveComplete
  split
  next resolved =>
    rcases uniqueOrReview_cases resolved with ⟨target, only, rfl⟩ | rfl
    · exact only
    · trivial
  next unresolved =>
    have exact := noMatch_iff.mpr (uniqueOrReview_eq_none unresolved)
    split
    next relationship target only =>
      rw [only] at arranged
      rcases List.append_eq_singleton_iff.mp (List.singleton_perm.mp arranged).symm with
        ⟨unrenamed, moved⟩ | ⟨renamed, unmoved⟩
      · obtain ⟨other, isOnly, same⟩ := List.map_eq_singleton_iff.mp moved
        cases same
        exact ⟨isOnly, exact, noMatch_iff.mpr (List.map_eq_nil_iff.mp unrenamed)⟩
      · obtain ⟨other, isOnly, same⟩ := List.map_eq_singleton_iff.mp renamed
        cases same
        exact ⟨isOnly, exact, noMatch_iff.mpr (List.map_eq_nil_iff.mp unmoved)⟩
    next none =>
      rw [none] at arranged
      obtain ⟨renamed, moved⟩ := List.append_eq_nil_iff.mp (List.nil_perm.mp arranged)
      exact resolveUnmatched_justified exact (noMatch_iff.mpr (List.map_eq_nil_iff.mp renamed))
        (noMatch_iff.mpr (List.map_eq_nil_iff.mp moved))
    next => trivial

/-- The duplicate check passes exactly on distinct occurrences. -/
theorem hasDuplicates_order_iff :
    hasDuplicates ((sortBy RustCorrespondenceCandidate.order candidates).map (·.identity)) =
        false ↔ (candidates.map (·.identity)).Nodup := by
  have arranged := (sortBy_perm RustCorrespondenceCandidate.order candidates).map (·.identity)
  rw [hasDuplicates_eq_false_iff, ← arranged.nodup_iff]
  constructor
  · intro untied
    have sorted : SortedBy compare
        ((sortBy RustCorrespondenceCandidate.order candidates).map (·.identity)) :=
      List.pairwise_map.mpr
        (sortBy_sorted (compareOn RustCorrespondenceCandidate.identity) candidates)
    refine (strictlyIncreasing_of_sorted sorted (untied.imp ?_)).imp ?_
    · exact fun _ _ different same => different (LawfulEqOrd.eq_of_compare same)
    · rintro first second less rfl
      rw [ReflOrd.compare_self] at less
      cases less
  · exact List.Pairwise.isChain

end Precision

/--
The decision is free of the candidates' order, matches only what exactly one
candidate satisfies under the first rule that applies, and draws no conclusion
from an incomplete enumeration.
-/
theorem correspondence_precise (subject : RustCorrespondenceSubject)
    (candidates : List RustCorrespondenceCandidate) (candidateCount : Nat) :
    (∀ reordered : List RustCorrespondenceCandidate, reordered.Perm candidates →
      resolveRustCorrespondence subject reordered candidateCount =
        resolveRustCorrespondence subject candidates candidateCount) ∧
    ∀ resolution, resolveRustCorrespondence subject candidates candidateCount = .ok resolution →
      Justified subject candidates resolution ∧
      (candidates.length < candidateCount → resolution = .indeterminate .candidateOverflow) ∧
      (resolution = .missing → candidates.length = candidateCount) := by
  constructor
  · intro reordered perm
    unfold resolveRustCorrespondence
    rw [perm.length_eq]
    by_cases distinct : (candidates.map (·.identity)).Nodup
    · have sameOrder : sortBy RustCorrespondenceCandidate.order reordered =
          sortBy RustCorrespondenceCandidate.order candidates :=
        sortBy_eq_of_nodup_keys ((perm.map _).nodup_iff.mpr distinct) perm
      rw [sameOrder]
    · have repeated := mt hasDuplicates_order_iff.mp distinct
      have stillRepeated := mt hasDuplicates_order_iff.mp (mt (perm.map _).nodup_iff.mp distinct)
      rw [Bool.not_eq_false] at repeated stillRepeated
      rw [repeated, stillRepeated]
      rfl
  · intro resolution resolved
    unfold resolveRustCorrespondence at resolved
    split at resolved
    · cases resolved
    · split at resolved
      · cases resolved
      · split at resolved
        · cases resolved
        · rename_i within unrepeated
          rw [Bool.not_eq_true] at unrepeated
          have distinct := hasDuplicates_order_iff.mp unrepeated
          have arranged := sortBy_perm RustCorrespondenceCandidate.order candidates
          split at resolved
          · rename_i incomplete
            cases resolved
            exact ⟨trivial, fun _ => rfl, by rintro ⟨⟩⟩
          · rename_i complete
            cases resolved
            refine ⟨Justified.of_perm arranged
              (resolveComplete_justified ((arranged.map _).nodup_iff.mpr distinct)), ?_, ?_⟩
            · exact fun incomplete => absurd incomplete complete
            · exact fun _ => by omega

end RepoWitness
