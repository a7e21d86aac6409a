import Mathlib.Data.List.Perm.Basic
import RepoWitness.GraphTraversalEngine

namespace RepoWitness

open Std

/-!
# Admission of a relationship slice

The four comparators are total orders up to equality of edges, so each sorted
index vector is determined by the set of input edges.  An accepted slice has no
repeated edge, and the binary-searched ranges are exactly the edges with the
searched origin or site.
-/

instance : TransCmp compareBySite := inferInstanceAs (TransCmp (compareLex _ _))

instance : TransCmp compareRelationship := inferInstanceAs (TransCmp (compareLex _ _))

instance : TransCmp compareOutbound := inferInstanceAs (TransCmp (compareLex _ _))

instance : TransCmp compareInbound := inferInstanceAs (TransCmp (compareLex _ _))

/-- Edges are equal when the compared fields are. -/
theorem RustGraphTraversalEdge.eq_of_fields {first second : RustGraphTraversalEdge}
    (source : first.source = second.source) (site : first.site = second.site)
    (target : first.target = second.target)
    (extraction : first.extractionEvidence = second.extractionEvidence)
    (resolution : first.resolutionEvidence = second.resolutionEvidence)
    (cardinality : first.cardinality = second.cardinality) :
    first = second := by
  cases first
  cases second
  simp_all

instance : LawfulEqCmp compareBySite where
  compare_self {edge} := ReflCmp.compare_self
  eq_of_compare {first second} same := by
    simp only [compareBySite, compareLex_eq_eq, compareOn, LawfulEqOrd.compare_eq_iff_eq] at same
    obtain ⟨site, target, source, cardinality, extraction, resolution⟩ := same
    exact RustGraphTraversalEdge.eq_of_fields source site target extraction resolution cardinality

instance : LawfulEqCmp compareRelationship where
  compare_self {edge} := ReflCmp.compare_self
  eq_of_compare {first second} same := by
    simp only [compareRelationship, compareLex_eq_eq, compareOn,
      LawfulEqOrd.compare_eq_iff_eq] at same
    obtain ⟨_, resolution, extraction, source, site, target, cardinality⟩ := same
    exact RustGraphTraversalEdge.eq_of_fields source site target extraction resolution cardinality

/-! ## Byte accounting -/

/-- The encoded size of a relationship. -/
def relationshipBytes (edge : RustGraphTraversalEdge) : Nat :=
  definitionFixedBytes + edge.source.path.bytes.length +
    (definitionFixedBytes + edge.target.path.bytes.length) +
    (siteFixedBytes + edge.site.path.bytes.length) + 16

theorem checkedAdd_eq_ok {first second : Nat} (representable : first + second < 2 ^ 64) :
    checkedAdd first second = .ok (first + second) := if_pos representable

theorem checkedAdd_ok {first second total : Nat} (accepted : checkedAdd first second = .ok total) :
    total = first + second := by
  unfold checkedAdd at accepted
  split at accepted
  · exact (Except.ok.inj accepted).symm
  · cases accepted

theorem encodedDefinitionBytes_eq_ok (definition : RustGraphDefinitionIdentity) :
    encodedDefinitionBytes definition =
      .ok (definitionFixedBytes + definition.path.bytes.length) := by
  have addressable := definition.path.addressable
  exact checkedAdd_eq_ok (by simp only [definitionFixedBytes]; omega)

theorem encodedRelationshipBytes_eq_ok (edge : RustGraphTraversalEdge) :
    encodedRelationshipBytes edge = .ok (relationshipBytes edge) := by
  have sourceAddressable := edge.source.path.addressable
  have targetAddressable := edge.target.path.addressable
  have siteAddressable := edge.site.path.addressable
  unfold encodedRelationshipBytes relationshipBytes
  simp only [encodedDefinitionBytes_eq_ok, except_ok_bind, definitionFixedBytes, siteFixedBytes]
  rw [checkedAdd_eq_ok (by omega), except_ok_bind,
    checkedAdd_eq_ok (by omega), except_ok_bind,
    checkedAdd_eq_ok (by omega), except_ok_bind,
    checkedAdd_eq_ok (by omega)]

theorem relationshipBytes_lt (edge : RustGraphTraversalEdge) :
    relationshipBytes edge < 2 ^ 64 - 2 ^ 32 := by
  have sourceAddressable := edge.source.path.addressable
  have targetAddressable := edge.target.path.addressable
  have siteAddressable := edge.site.path.addressable
  simp only [relationshipBytes, definitionFixedBytes, siteFixedBytes]
  omega

namespace AdmittedEdges

/-- The accounting loop accepts exactly the slices whose total size fits. -/
theorem sumInputBytes_result (limits : RustGraphTraceLimits) {inputBytes : Nat}
    (edges : List RustGraphTraversalEdge) (bounded : inputBytes ≤ limits.maxInputBytes) :
    (sumInputBytes limits inputBytes edges).result =
      if inputBytes + (edges.map relationshipBytes).sum ≤ limits.maxInputBytes then
        .ok (inputBytes + (edges.map relationshipBytes).sum)
      else
        .error .inputByteLimitExceeded := by
  induction edges generalizing inputBytes with
  | nil => simp [sumInputBytes, bounded]
  | cons edge edges hypothesis =>
    have ceiling := limits.inputBytesValid.2
    have small := relationshipBytes_lt edge
    have total : checkedAdd inputBytes (relationshipBytes edge) =
          .ok (inputBytes + relationshipBytes edge) :=
      checkedAdd_eq_ok (by omega)
    simp only [sumInputBytes, Polled.result_bind, Polled.result_poll,
      Polled.result_done, encodedRelationshipBytes_eq_ok,
      except_ok_bind, total, List.map_cons, List.sum_cons]
    by_cases beyond : limits.maxInputBytes < inputBytes + relationshipBytes edge
    · have exceeded : ¬ inputBytes +
              (relationshipBytes edge + (edges.map relationshipBytes).sum) ≤
            limits.maxInputBytes := by
        omega
      simp [beyond, exceeded]
    · have later := hypothesis (Nat.not_lt.mp beyond)
      simp only [beyond, if_false, later, Nat.add_assoc]

/-! ## Site groups -/

/-- The order of the site index up to its first two keys. -/
def compareSiteTarget : RustGraphTraversalEdge → RustGraphTraversalEdge → Ordering :=
  compareLex (compareOn (·.site)) (compareOn (·.target))

instance : TransCmp compareSiteTarget := inferInstanceAs (TransCmp (compareLex _ _))

theorem compareSiteTarget_lt {first second : RustGraphTraversalEdge}
    (ordered : ComparesLE compareBySite first second)
    (distinct : ¬ (first.site = second.site ∧ first.target = second.target)) :
    compareSiteTarget first second = .lt := by
  have atMost : (compareSiteTarget first second).isLE = true := by
    unfold ComparesLE compareBySite at ordered
    unfold compareSiteTarget
    simp only [compareLex] at ordered ⊢
    cases bySite : compareOn (·.site) first second <;>
      cases byTarget : compareOn (·.target) first second <;> simp_all
  have different : compareSiteTarget first second ≠ .eq := by
    intro same
    simp only [compareSiteTarget, compareLex_eq_eq, compareOn,
      LawfulEqOrd.compare_eq_iff_eq] at same
    exact distinct same
  cases outcome : compareSiteTarget first second <;> simp_all

/-- Inside a validated group, consecutive edges strictly increase. -/
theorem isChain_of_validateSiteGroup {first previous : RustGraphTraversalEdge} {size : Nat}
    {rest : List RustGraphTraversalEdge}
    (accepted : (validateSiteGroup first previous size rest).result = .ok ())
    (sameGroup : previous.site = first.site) (sorted : SortedBy compareBySite (previous :: rest)) :
    (previous :: rest).IsChain (fun left right => compareSiteTarget left right = .lt) := by
  induction rest generalizing first previous size with
  | nil => exact .singleton _
  | cons current rest hypothesis =>
    obtain ⟨least, restSorted⟩ := List.pairwise_cons.mp sorted
    have ordered := least current List.mem_cons_self
    refine .cons_cons ?_ ?_
    · apply compareSiteTarget_lt ordered
      rintro ⟨sameSite, sameTarget⟩
      have inGroup : current.site = first.site := sameSite.symm.trans sameGroup
      simp [validateSiteGroup, inGroup, sameTarget.symm] at accepted
      split at accepted <;> simp at accepted
    · by_cases inGroup : current.site = first.site
      · simp only [validateSiteGroup, inGroup, if_true,
          Polled.result_bind, Polled.result_poll,
          except_ok_bind] at accepted
        split at accepted
        · simp at accepted
        · split at accepted
          · simp at accepted
          · exact hypothesis accepted inGroup restSorted
      · simp only [validateSiteGroup, inGroup, if_false,
          Polled.result_bind, Polled.result_poll,
          except_ok_bind] at accepted
        obtain ⟨_, _, later⟩ := except_bind_eq_ok_iff.mp accepted
        exact hypothesis later rfl restSorted

/-- A validated site index has no repeated edge. -/
theorem nodup_of_validateSiteGroups {bySite : List RustGraphTraversalEdge}
    (accepted : (validateSiteGroups bySite).result = .ok ())
    (sorted : SortedBy compareBySite bySite) :
    bySite.Nodup := by
  cases bySite with
  | nil => exact List.nodup_nil
  | cons first rest =>
    simp only [validateSiteGroups, Polled.result_bind,
      Polled.result_poll, except_ok_bind] at accepted
    have chain := isChain_of_validateSiteGroup accepted rfl sorted
    have strict :
        (first :: rest).Pairwise (fun left right => compareSiteTarget left right = .lt) := by
      have transitive :
          Trans (fun left right : RustGraphTraversalEdge => compareSiteTarget left right = .lt)
            (fun left right => compareSiteTarget left right = .lt)
            (fun left right => compareSiteTarget left right = .lt) :=
        ⟨TransCmp.lt_trans⟩
      exact List.isChain_iff_pairwise.mp chain
    refine strict.imp ?_
    rintro left right before rfl
    have itself : compareSiteTarget left left = .eq := ReflCmp.compare_self
    rw [itself] at before
    cases before

/-! ## What an accepted slice provides -/

/-- The facts every later proof uses about an admitted slice. -/
structure Admits (admitted : AdmittedEdges) (edges : List RustGraphTraversalEdge) : Prop where
  bySitePerm : admitted.bySite.Perm edges
  bySiteSorted : SortedBy compareBySite admitted.bySite
  outboundPerm : admitted.outbound.Perm edges
  outboundSorted : SortedBy compareOutbound admitted.outbound
  inboundPerm : admitted.inbound.Perm edges
  inboundSorted : SortedBy compareInbound admitted.inbound
  nodup : edges.Nodup
  small : edges.length ≤ 2 ^ 63

/-- Admission succeeds only with three sorted arrangements of the input. -/
theorem admits_of_new {sorter : UnstableSort} {edges : List RustGraphTraversalEdge}
    {limits : RustGraphTraceLimits} {admitted : AdmittedEdges}
    (accepted : (new sorter edges limits).result = .ok admitted) :
    admitted.Admits edges := by
  unfold new at accepted
  split at accepted
  · simp at accepted
  · rename_i withinCount
    have ceiling := limits.inputEdgesValid.2
    have small : edges.length ≤ 2 ^ 63 := by omega
    simp only [Polled.result_bind, except_bind_eq_ok_iff] at accepted
    obtain ⟨inputBytes, _, bySite, bySiteOk, _, groupsOk, outbound,
        outboundOk, inbound, inboundOk, _, _, same⟩ := accepted
    cases Except.ok.inj same
    obtain ⟨bySite', bySiteOk', bySitePerm, bySiteSorted⟩ :=
      cancellableSortIndices_result sorter compareBySite small
    cases bySiteOk.symm.trans bySiteOk'
    have smallIndex : bySite.length ≤ 2 ^ 63 := bySitePerm.length_eq ▸ small
    obtain ⟨outbound', outboundOk', outboundPerm, outboundSorted⟩ :=
      cancellableSortIndices_result sorter compareOutbound smallIndex
    cases outboundOk.symm.trans outboundOk'
    obtain ⟨inbound', inboundOk', inboundPerm, inboundSorted⟩ :=
      cancellableSortIndices_result sorter compareInbound smallIndex
    cases inboundOk.symm.trans inboundOk'
    exact
      { bySitePerm := bySitePerm, bySiteSorted := bySiteSorted
        outboundPerm := outboundPerm.trans bySitePerm
        outboundSorted := outboundSorted
        inboundPerm := inboundPerm.trans bySitePerm
        inboundSorted := inboundSorted
        nodup := bySitePerm.nodup_iff.mp (nodup_of_validateSiteGroups groupsOk bySiteSorted)
        small := small }

/-- Admission sees its input only as a multiset of edges. -/
theorem new_result_congr (sorter : UnstableSort) (limits : RustGraphTraceLimits)
    {first second : List RustGraphTraversalEdge} (permutation : first.Perm second) :
    (new sorter first limits).result = (new sorter second limits).result := by
  unfold new
  rw [permutation.length_eq]
  by_cases beyond : limits.maxInputEdges < second.length
  · simp [beyond]
  · have ceiling := limits.inputEdgesValid.2
    have small : first.length ≤ 2 ^ 63 := by
      rw [permutation.length_eq]
      omega
    have bytes :
        (sumInputBytes limits 0 first).result = (sumInputBytes limits 0 second).result := by
      rw [sumInputBytes_result limits first (Nat.zero_le _),
        sumInputBytes_result limits second (Nat.zero_le _),
        (permutation.map relationshipBytes).sum_nat]
    have index := cancellableSortIndices_result_congr sorter compareBySite small permutation
    simp only [beyond, if_false, Polled.result_bind, bytes, index]

namespace Admits

variable {admitted : AdmittedEdges} {edges : List RustGraphTraversalEdge}

section Admits

variable (admits : admitted.Admits edges)

include admits

/-- The adjacency range of a definition is a filter of the input. -/
theorem adjacent_perm (definition : RustGraphDefinitionIdentity)
    (direction : RustGraphTraceDirection) :
    (admitted.adjacent definition direction).Perm
      (edges.filter (fun edge => decide (orientedOrigin direction edge = definition))) := by
  have decided :
      (fun edge : RustGraphTraversalEdge =>
        compare (orientedOrigin direction edge) definition == .eq) =
      (fun edge => decide (orientedOrigin direction edge = definition)) := by
    funext edge
    rw [Bool.eq_iff_iff]
    simp
  unfold adjacent
  cases direction with
  | outbound =>
    have sorted : SortedBy (compareOn (orientedOrigin .outbound)) admitted.outbound :=
      admits.outboundSorted.of_compareLex
    rw [equalRange_eq_filter _ _ sorted, decided]
    exact admits.outboundPerm.filter _
  | inbound =>
    have sorted : SortedBy (compareOn (orientedOrigin .inbound)) admitted.inbound :=
      admits.inboundSorted.of_compareLex
    rw [equalRange_eq_filter _ _ sorted, decided]
    exact admits.inboundPerm.filter _

theorem mem_adjacent_iff {definition : RustGraphDefinitionIdentity}
    {direction : RustGraphTraceDirection} {edge : RustGraphTraversalEdge} :
    edge ∈ admitted.adjacent definition direction ↔
      edge ∈ edges ∧ orientedOrigin direction edge = definition := by
  rw [(admits.adjacent_perm definition direction).mem_iff, List.mem_filter, decide_eq_true_iff]

theorem nodup_adjacent (definition : RustGraphDefinitionIdentity)
    (direction : RustGraphTraceDirection) :
    (admitted.adjacent definition direction).Nodup :=
  (admits.adjacent_perm definition direction).nodup_iff.mpr (admits.nodup.filter _)

theorem matchingSite_perm (site : RustGraphSiteIdentity) :
    (admitted.matchingSite site).Perm (edges.filter (fun edge => decide (edge.site = site))) := by
  have sorted : SortedBy (compareOn (·.site)) admitted.bySite := admits.bySiteSorted.of_compareLex
  have decided : (fun edge : RustGraphTraversalEdge => compare edge.site site == .eq) =
      (fun edge => decide (edge.site = site)) := by
    funext edge
    rw [Bool.eq_iff_iff]
    simp
  unfold matchingSite
  rw [equalRange_eq_filter _ _ sorted, decided]
  exact admits.bySitePerm.filter _

theorem mem_matchingSite_iff {site : RustGraphSiteIdentity} {edge : RustGraphTraversalEdge} :
    edge ∈ admitted.matchingSite site ↔ edge ∈ edges ∧ edge.site = site := by
  rw [(admits.matchingSite_perm site).mem_iff, List.mem_filter, decide_eq_true_iff]

theorem nodup_matchingSite (site : RustGraphSiteIdentity) :
    (admitted.matchingSite site).Nodup :=
  (admits.matchingSite_perm site).nodup_iff.mpr (admits.nodup.filter _)

end Admits

end Admits

end AdmittedEdges

end RepoWitness
