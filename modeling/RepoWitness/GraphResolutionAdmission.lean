import RepoWitness.GraphResolutionEngine

namespace RepoWitness

open Std
open Text

/-!
# Admission does not depend on the arrangement of the input

Admission succeeds exactly when the counts and the total text fit their limits
and no two occurrences share an identity.  All of this is decided by the
multiset of occurrences.  Admitted occurrences are told apart by their order, so
the two sorted sequences, and with them the whole run, are the same for every
arrangement of the input.
-/

/-! ## Orders -/

theorem compareLex_assoc {α : Type} (first second third : α → α → Ordering) :
    compareLex first (compareLex second third) = compareLex (compareLex first second) third := by
  funext left right
  simp only [compareLex, Ordering.then_assoc]

theorem definitionOrdering_eq : definitionOrdering = compareLex definitionKeyOrdering
        (compareLex (compareOn (·.fact.kind)) <|
          compareLex (compareOn (·.fact.nameSpan)) (compareOn (·.fact.declarationSpan))) := by
  unfold definitionOrdering definitionKeyOrdering
  simp only [compareLex_assoc]

theorem siteOrdering_eq : siteOrdering = compareLex siteKeyOrdering
        (compareLex (compareOn (·.site.kind)) <|
          compareLex (compareOn (·.site.occurrenceSpan)) (compareOn (·.site.targetSpan))) := by
  unfold siteOrdering siteKeyOrdering
  simp only [compareLex_assoc]

theorem sameDefinitionIdentity_iff (left right : RustGraphDefinitionOccurrence) :
    sameDefinitionIdentity left right = true ↔ definitionKeyOrdering left right = .eq := by
  simp only [sameDefinitionIdentity, definitionKeyOrdering,
    compareLex_eq_eq, compareOn, LawfulEqOrd.compare_eq_iff_eq,
    Bool.and_eq_true, beq_iff_eq, and_assoc]

theorem sameSiteIdentity_iff (left right : RustGraphSiteOccurrence) :
    sameSiteIdentity left right = true ↔ siteKeyOrdering left right = .eq := by
  simp only [sameSiteIdentity, siteKeyOrdering, compareLex_eq_eq,
    compareOn, LawfulEqOrd.compare_eq_iff_eq, Bool.and_eq_true,
    beq_iff_eq, and_assoc]

section Distinct

variable {α : Type} {key tie : α → α → Ordering} {items : List α}

/-- A lexicographic order refines the order of its first part. -/
theorem increasing_compareLex (increasing : items.Pairwise (key · · = .lt)) :
    items.Pairwise (compareLex key tie · · = .lt) := by
  refine increasing.imp ?_
  intro left right less
  simp only [compareLex, less, Ordering.then]

variable {same : α → α → Bool} [TransCmp key] [TransCmp tie]

/-- A sorted sequence without equal neighbours increases strictly. -/
theorem increasing_of_untied (decides : ∀ left right, same left right = true ↔ key left right = .eq)
    (untied :
      (sortBy (compareLex key tie) items).IsChain (fun left right => same left right = false)) :
    (sortBy (compareLex key tie) items).Pairwise (key · · = .lt) := by
  refine strictlyIncreasing_of_sorted
    (SortedBy.of_compareLex (sortBy_sorted (compareLex key tie) items))
    (untied.imp ?_)
  intro left right different tied
  rw [(decides left right).mpr tied] at different
  cases different

/-- Elements of a strictly increasing sequence are told apart. -/
theorem eq_of_increasing {compare : α → α → Ordering} [TransCmp compare]
    (increasing : items.Pairwise (compare · · = .lt)) {left right : α} (isLeft : left ∈ items)
    (isRight : right ∈ items) (tied : compare left right = .eq) :
    left = right := by
  refine List.Pairwise.forall_of_forall_of_flip
    (R := fun left right => compare left right = .eq → left = right)
    (fun _ _ _ => rfl) (increasing.imp ?_) (increasing.imp ?_)
    isLeft isRight tied
  · intro first second less equal
    rw [less] at equal
    cases equal
  · intro first second less equal
    rw [@OrientedCmp.eq_swap _ compare, less] at equal
    cases equal

/-- Distinct occurrences are distinct in every arrangement, and sort alike. -/
theorem sorted_of_perm (decides : ∀ left right, same left right = true ↔ key left right = .eq)
    {other : List α} (permutation : items.Perm other)
    (untied :
      (sortBy (compareLex key tie) items).IsChain (fun left right => same left right = false)) :
    sortBy (compareLex key tie) items = sortBy (compareLex key tie) other := by
  have increasing : (sortBy (compareLex key tie) items).Pairwise (compareLex key tie · · = .lt) :=
    increasing_compareLex (increasing_of_untied decides untied)
  have arranged := sortBy_perm (compareLex key tie) items
  refine sortBy_eq_of_perm ?_ permutation
  intro left isLeft right isRight tied
  exact eq_of_increasing increasing (arranged.mem_iff.mpr isLeft)
    (arranged.mem_iff.mpr isRight) tied

end Distinct

/-! ## Text accounting -/

section Accounting

variable {limits : RustGraphResolutionLimits} {total accounted : Nat}

theorem addTexts_eq_ok_iff (bounded : total ≤ limits.maxInputTextBytes) (parts : List Nat) :
    addTexts limits total parts = .ok accounted ↔
      accounted = total + parts.sum ∧ accounted ≤ limits.maxInputTextBytes := by
  induction parts generalizing total with
  | nil =>
    simp only [addTexts, Except.ok.injEq, List.sum_nil, Nat.add_zero]
    constructor
    · rintro rfl
      exact ⟨rfl, bounded⟩
    · rintro ⟨rfl, _⟩
      rfl
  | cons bytes rest hypothesis =>
    have ceiling := limits.textBounded.2
    simp only [addTexts, except_bind_eq_ok_iff, List.sum_cons]
    unfold addText
    constructor
    · rintro ⟨middle, added, continued⟩
      split at added
      · cases added
      · split at added
        · cases added
        · cases added
          have whole := (hypothesis (by omega)).mp continued
          omega
    · rintro ⟨rfl, fits⟩
      refine ⟨total + bytes, ?_, ?_⟩
      · rw [if_neg (by omega), if_neg (by omega)]
      · exact (hypothesis (by omega)).mpr ⟨by omega, fits⟩

theorem addTexts_append (first second : List Nat) :
    addTexts limits total (first ++ second) =
      addTexts limits total first >>= fun accounted => addTexts limits accounted second := by
  induction first generalizing total with
  | nil => rfl
  | cons bytes rest hypothesis =>
    rw [List.cons_append, addTexts, addTexts]
    cases addText limits total bytes with
    | error error => rfl
    | ok accounted => exact hypothesis

theorem sumDefinitionTexts_eq_ok_iff (bounded : total ≤ limits.maxInputTextBytes)
    (definitions : List RustGraphDefinitionOccurrence) :
    (sumDefinitionTexts limits total definitions).result = .ok accounted ↔
      accounted = total + (definitions.map fun definition => (definitionTexts definition).sum).sum ∧
        accounted ≤ limits.maxInputTextBytes := by
  have flat (total : Nat) : (sumDefinitionTexts limits total definitions).result =
      addTexts limits total (definitions.flatMap definitionTexts) := by
    induction definitions generalizing total with
    | nil => rfl
    | cons definition rest hypothesis =>
      simp only [sumDefinitionTexts, Polled.result_bind, Polled.result_poll, Polled.result_done,
        except_ok_bind, hypothesis, List.flatMap_cons, addTexts_append]
  rw [flat, addTexts_eq_ok_iff bounded, List.flatMap, List.sum_flatten, List.map_map]
  rfl

/-- A validated site never fails the span check of the loop. -/
theorem targetSpan_inside (site : RustGraphSite) :
    ¬(site.targetSpan.start < site.occurrenceSpan.start ∨
      site.occurrenceSpan.stop < site.targetSpan.stop) := by
  have inside := site.targetInside
  simp only [spanContains, Bool.and_eq_true, decide_eq_true_eq] at inside
  omega

theorem sumSiteTexts_eq_ok_iff (bounded : total ≤ limits.maxInputTextBytes)
    (sites : List RustGraphSiteOccurrence) :
    (sumSiteTexts limits total sites).result = .ok accounted ↔
      accounted = total + (sites.map fun occurrence => (siteTexts occurrence).sum).sum ∧
        accounted ≤ limits.maxInputTextBytes := by
  have flat (total : Nat) : (sumSiteTexts limits total sites).result =
      addTexts limits total (sites.flatMap siteTexts) := by
    induction sites generalizing total with
    | nil => rfl
    | cons occurrence rest hypothesis =>
      simp only [sumSiteTexts, if_neg (targetSpan_inside occurrence.site), Polled.result_bind,
        Polled.result_poll, Polled.result_done, except_ok_bind, hypothesis, List.flatMap_cons,
        addTexts_append]
  rw [flat, addTexts_eq_ok_iff bounded, List.flatMap, List.sum_flatten, List.map_map]
  rfl

end Accounting

/-! ## Admissible inputs -/

theorem rejectNeighbours_eq_ok_iff {α : Type} (same : α → α → Bool)
    (error : RustGraphResolutionError) (items : List α) :
    (rejectNeighbours same error items).result = .ok () ↔
      items.IsChain (fun left right => same left right = false) := by
  induction items with
  | nil => exact iff_of_true rfl .nil
  | cons first rest hypothesis =>
    cases rest with
    | nil => exact iff_of_true rfl (.singleton first)
    | cons second others =>
      rw [List.isChain_cons_cons, ← hypothesis]
      simp only [rejectNeighbours, Polled.result_bind, Polled.result_poll, except_ok_bind]
      cases same first second with
      | true => simp
      | false => simp

/-- The text of a whole input. -/
def inputText (definitions : List RustGraphDefinitionOccurrence)
    (sites : List RustGraphSiteOccurrence) : Nat :=
  (definitions.map fun definition =>
      (definitionTexts definition).sum).sum +
    (sites.map fun occurrence => (siteTexts occurrence).sum).sum

/-- What admission requires of an input. -/
structure Admissible (definitions : List RustGraphDefinitionOccurrence)
    (sites : List RustGraphSiteOccurrence) (limits : RustGraphResolutionLimits) : Prop where
  definitionCount : definitions.length ≤ limits.maxDefinitions
  siteCount : sites.length ≤ limits.maxSites
  textBytes : inputText definitions sites ≤ limits.maxInputTextBytes
  definitionsDistinct : (sortBy definitionOrdering definitions).IsChain
      (fun left right => sameDefinitionIdentity left right = false)
  sitesDistinct :
    (sortBy siteOrdering sites).IsChain (fun left right => sameSiteIdentity left right = false)

/-- The admitted form of an input. -/
def admittedInput (definitions : List RustGraphDefinitionOccurrence)
    (sites : List RustGraphSiteOccurrence) : AdmittedInput where
  definitionOrder := sortBy definitionOrdering definitions
  siteOrder := sortBy siteOrdering sites
  inputTextBytes := inputText definitions sites

open NestedHelpers

section Admission

variable {definitions definitions' : List RustGraphDefinitionOccurrence}
  {sites sites' : List RustGraphSiteOccurrence} {limits : RustGraphResolutionLimits}

theorem admitInputs_eq_ok_iff {admitted : AdmittedInput} :
    (admitInputs definitions sites limits).result = .ok admitted ↔
      Admissible definitions sites limits ∧ admitted = admittedInput definitions sites := by
  unfold admitInputs
  constructor
  · intro accepted
    split at accepted
    · cases accepted
    case isFalse fewDefinitions =>
      split at accepted
      · cases accepted
      case isFalse fewSites =>
        simp only [Polled.result_bind, except_bind_eq_ok_iff,
          Polled.result_poll, Polled.result_pure, Except.ok.injEq]
          at accepted
        obtain ⟨definitionBytes, summed, textBytes, whole, _,
          definitionsApart, _, sitesApart, _, _, rfl⟩ := accepted
        obtain ⟨rfl, definitionsFit⟩ :=
          (sumDefinitionTexts_eq_ok_iff (Nat.zero_le _) definitions).mp summed
        obtain ⟨rfl, fits⟩ := (sumSiteTexts_eq_ok_iff definitionsFit sites).mp whole
        rw [Nat.zero_add] at fits ⊢
        exact
          ⟨{ definitionCount := Nat.le_of_not_lt fewDefinitions
             siteCount := Nat.le_of_not_lt fewSites
             textBytes := fits
             definitionsDistinct := (rejectNeighbours_eq_ok_iff _ _ _).mp definitionsApart
             sitesDistinct := (rejectNeighbours_eq_ok_iff _ _ _).mp sitesApart }, rfl⟩
  · rintro ⟨admissible, rfl⟩
    have fits := admissible.textBytes
    unfold inputText at fits
    have definitionsFit : 0 +
          (definitions.map fun definition => (definitionTexts definition).sum).sum ≤
          limits.maxInputTextBytes := by
      omega
    rw [if_neg (Nat.not_lt.mpr admissible.definitionCount),
      if_neg (Nat.not_lt.mpr admissible.siteCount)]
    simp only [Polled.result_bind, except_bind_eq_ok_iff,
      Polled.result_poll, Polled.result_pure, Except.ok.injEq]
    refine ⟨_,
      (sumDefinitionTexts_eq_ok_iff (Nat.zero_le _) definitions).mpr ⟨rfl, definitionsFit⟩,
      inputText definitions sites,
      (sumSiteTexts_eq_ok_iff definitionsFit sites).mpr
        ⟨by rw [Nat.zero_add]; rfl, admissible.textBytes⟩,
      (), ?_, (), ?_, (), trivial, rfl⟩
    · exact (rejectNeighbours_eq_ok_iff _ _ _).mpr admissible.definitionsDistinct
    · exact (rejectNeighbours_eq_ok_iff _ _ _).mpr admissible.sitesDistinct

namespace Admissible

variable (admissible : Admissible definitions sites limits)

include admissible

theorem definitions_increasing : (sortBy definitionOrdering definitions).Pairwise
      (definitionOrdering · · = .lt) := by
  have distinct := admissible.definitionsDistinct
  rw [definitionOrdering_eq] at distinct ⊢
  exact increasing_compareLex (increasing_of_untied sameDefinitionIdentity_iff distinct)

/-- Admitted definitions that tie in their order are equal. -/
theorem definition_eq_of_tied {left right : RustGraphDefinitionOccurrence}
    (isLeft : left ∈ definitions) (isRight : right ∈ definitions)
    (tied : definitionOrdering left right = .eq) :
    left = right := by
  have arranged := sortBy_perm definitionOrdering definitions
  exact eq_of_increasing admissible.definitions_increasing
    (arranged.mem_iff.mpr isLeft) (arranged.mem_iff.mpr isRight) tied

/-- The admitted form is that of every arrangement. -/
theorem admittedInput_of_perm (definitionsPermuted : definitions.Perm definitions')
    (sitesPermuted : sites.Perm sites') :
    admittedInput definitions' sites' = admittedInput definitions sites := by
  have definitionsDistinct := admissible.definitionsDistinct
  have sitesDistinct := admissible.sitesDistinct
  have definitionsAlike :
      sortBy definitionOrdering definitions = sortBy definitionOrdering definitions' := by
    rw [definitionOrdering_eq] at definitionsDistinct ⊢
    exact sorted_of_perm sameDefinitionIdentity_iff definitionsPermuted definitionsDistinct
  have sitesAlike : sortBy siteOrdering sites = sortBy siteOrdering sites' := by
    rw [siteOrdering_eq] at sitesDistinct ⊢
    exact sorted_of_perm sameSiteIdentity_iff sitesPermuted sitesDistinct
  unfold admittedInput inputText
  rw [definitionsAlike, sitesAlike,
    (definitionsPermuted.map _).sum_nat, (sitesPermuted.map _).sum_nat]

theorem of_perm (definitionsPermuted : definitions.Perm definitions')
    (sitesPermuted : sites.Perm sites') :
    Admissible definitions' sites' limits := by
  have alike := admissible.admittedInput_of_perm definitionsPermuted sitesPermuted
  simp only [admittedInput, AdmittedInput.mk.injEq] at alike
  obtain ⟨definitionsAlike, sitesAlike, sameText⟩ := alike
  exact
    { definitionCount :=
        definitionsPermuted.length_eq ▸ admissible.definitionCount
      siteCount := sitesPermuted.length_eq ▸ admissible.siteCount
      textBytes := sameText ▸ admissible.textBytes
      definitionsDistinct := definitionsAlike ▸ admissible.definitionsDistinct
      sitesDistinct := sitesAlike ▸ admissible.sitesDistinct }

end Admissible

/--
A run that succeeds on one arrangement of definitions and sites succeeds with
the same result on every other.
-/
theorem resolution_independent_of_arrangement (definitionsPermuted : definitions.Perm definitions')
    (sitesPermuted : sites.Perm sites') {resolution : RustGraphResolution}
    (resolved :
      (resolveRustGraphSites definitions sites limits).observe Polled.never = .ok resolution) :
    (resolveRustGraphSites definitions' sites' limits).observe Polled.never = .ok resolution := by
  rw [Polled.observe_never] at resolved ⊢
  unfold resolveRustGraphSites at resolved ⊢
  simp only [Polled.result_bind, Polled.result_poll, except_ok_bind] at resolved ⊢
  -- After admission a run reads the input only through its admitted form.
  rw [except_bind_eq_ok_iff] at resolved ⊢
  obtain ⟨admitted, accepted, completed⟩ := resolved
  obtain ⟨admissible, rfl⟩ := admitInputs_eq_ok_iff.mp accepted
  refine ⟨admittedInput definitions sites, ?_, ?_⟩
  · refine admitInputs_eq_ok_iff.mpr ⟨?_, ?_⟩
    · exact admissible.of_perm definitionsPermuted sitesPermuted
    · exact (admissible.admittedInput_of_perm definitionsPermuted sitesPermuted).symm
  · rw [← definitionsPermuted.length_eq, ← sitesPermuted.length_eq]
    exact completed

/-- Both arrangements of two functions and two calls resolve alike. -/
theorem resolution_independent_of_arrangement_of_helpers : ∃ resolution,
      (resolveRustGraphSites [root, nested] [bareCall, rootedCall]
          .default).observe Polled.never = .ok resolution ∧
        (resolveRustGraphSites [nested, root] [rootedCall, bareCall]
          .default).observe Polled.never = .ok resolution := by
  have succeeds : ((resolveRustGraphSites [root, nested] [bareCall, rootedCall]
        .default).observe Polled.never).toOption.isSome = true := by
    decide +kernel
  obtain ⟨resolution, isResolution⟩ := Option.isSome_iff_exists.mp succeeds
  have resolved := except_toOption_eq_some_iff.mp isResolution
  exact ⟨resolution, resolved,
    resolution_independent_of_arrangement (.swap _ _ _) (.swap _ _ _) resolved⟩

end Admission

end RepoWitness
