import Mathlib.Data.Finset.Lattice.Basic
import Mathlib.Order.Lattice
import RepoWitness.ConfigurationResolution

namespace RepoWitness

/-!
# Layers only tighten

The effective policy is a point of a product of orders: sets of allowed values
by inclusion, ceilings downwards, the retained-generation floor upwards, denials
once set.  A layer moves this point down, and the moves of two layers commute.
So the order of the layers does not matter, and one more layer, wherever it
stands, never gives back what the others took away.
-/

section Bounds

/-- The values a policy lets through, without their provenance. -/
structure PolicyBounds where
  allowedLanguages : Finset SourceLanguage
  allowedMcpToolProfiles : Finset McpToolProfile
  maxSourceFileBytes : Nat
  maxSourceFiles : Nat
  maxQueryResults : Nat
  maxContextBytes : Nat
  maxGraphDepth : Nat
  maxGraphResults : Nat
  denyMemoryWrites : Bool
  followSymlinks : Bool
  retainedGenerationsPerSourceSlot : Nat
  maxGenerationCandidates : Nat
  maxRows : Nat
  maxBytes : Nat

/-- Nothing is let through that the other bounds refuse. -/
structure PolicyBounds.TighterThan (tight loose : PolicyBounds) : Prop where
  allowedLanguages : tight.allowedLanguages ⊆ loose.allowedLanguages
  allowedMcpToolProfiles : tight.allowedMcpToolProfiles ⊆ loose.allowedMcpToolProfiles
  maxSourceFileBytes : tight.maxSourceFileBytes ≤ loose.maxSourceFileBytes
  maxSourceFiles : tight.maxSourceFiles ≤ loose.maxSourceFiles
  maxQueryResults : tight.maxQueryResults ≤ loose.maxQueryResults
  maxContextBytes : tight.maxContextBytes ≤ loose.maxContextBytes
  maxGraphDepth : tight.maxGraphDepth ≤ loose.maxGraphDepth
  maxGraphResults : tight.maxGraphResults ≤ loose.maxGraphResults
  denyMemoryWrites : loose.denyMemoryWrites = true → tight.denyMemoryWrites = true
  followSymlinks : tight.followSymlinks = true → loose.followSymlinks = true
  retainedGenerationsPerSourceSlot :
    loose.retainedGenerationsPerSourceSlot ≤ tight.retainedGenerationsPerSourceSlot
  maxGenerationCandidates : tight.maxGenerationCandidates ≤ loose.maxGenerationCandidates
  maxRows : tight.maxRows ≤ loose.maxRows
  maxBytes : tight.maxBytes ≤ loose.maxBytes

instance : Preorder PolicyBounds where
  le := PolicyBounds.TighterThan
  le_refl _ := by constructor <;> simp
  le_trans _ _ _ lower upper :=
    { allowedLanguages :=
        lower.allowedLanguages.trans upper.allowedLanguages
      allowedMcpToolProfiles := lower.allowedMcpToolProfiles.trans upper.allowedMcpToolProfiles
      maxSourceFileBytes := lower.maxSourceFileBytes.trans upper.maxSourceFileBytes
      maxSourceFiles := lower.maxSourceFiles.trans upper.maxSourceFiles
      maxQueryResults := lower.maxQueryResults.trans upper.maxQueryResults
      maxContextBytes := lower.maxContextBytes.trans upper.maxContextBytes
      maxGraphDepth := lower.maxGraphDepth.trans upper.maxGraphDepth
      maxGraphResults := lower.maxGraphResults.trans upper.maxGraphResults
      denyMemoryWrites := lower.denyMemoryWrites ∘ upper.denyMemoryWrites
      followSymlinks := upper.followSymlinks ∘ lower.followSymlinks
      retainedGenerationsPerSourceSlot :=
        upper.retainedGenerationsPerSourceSlot.trans lower.retainedGenerationsPerSourceSlot
      maxGenerationCandidates := lower.maxGenerationCandidates.trans upper.maxGenerationCandidates
      maxRows := lower.maxRows.trans upper.maxRows
      maxBytes := lower.maxBytes.trans upper.maxBytes }

/-- Keep only the requested values. -/
def restrictTo {α : Type} [DecidableEq α] (allowed : Finset α)
    (requested : Option (Finset α)) : Finset α := requested.elim allowed (allowed ∩ ·)

/-- Lower a ceiling to a request. -/
def lowerTo (ceiling : Nat) (requested : Option UInt64) : Nat :=
  requested.elim ceiling (min ceiling ·.toNat)

/-- Raise a floor to a request. -/
def raiseTo (floor : Nat) (requested : Option UInt64) : Nat :=
  requested.elim floor (max floor ·.toNat)

theorem restrictTo_subset {α : Type} [DecidableEq α] (allowed : Finset α)
    (requested : Option (Finset α)) :
    restrictTo allowed requested ⊆ allowed := by
  cases requested with
  | none => exact Finset.Subset.refl allowed
  | some kept => exact Finset.inter_subset_left

theorem restrictTo_right_comm {α : Type} [DecidableEq α] (allowed : Finset α)
    (first second : Option (Finset α)) :
    restrictTo (restrictTo allowed first) second =
      restrictTo (restrictTo allowed second) first := by
  cases first with
  | none => rfl
  | some firstKept =>
    cases second with
    | none => rfl
    | some secondKept => exact Finset.inter_right_comm _ _ _

theorem lowerTo_le (ceiling : Nat) (requested : Option UInt64) :
    lowerTo ceiling requested ≤ ceiling := by
  cases requested with
  | none => exact Nat.le_refl ceiling
  | some bound => exact Nat.min_le_left _ _

theorem lowerTo_right_comm (ceiling : Nat) (first second : Option UInt64) :
    lowerTo (lowerTo ceiling first) second = lowerTo (lowerTo ceiling second) first := by
  cases first with
  | none => rfl
  | some firstBound =>
    cases second with
    | none => rfl
    | some secondBound => exact min_right_comm _ _ _

theorem le_raiseTo (floor : Nat) (requested : Option UInt64) : floor ≤ raiseTo floor requested := by
  cases requested with
  | none => exact Nat.le_refl floor
  | some bound => exact Nat.le_max_left _ _

theorem raiseTo_right_comm (floor : Nat) (first second : Option UInt64) :
    raiseTo (raiseTo floor first) second = raiseTo (raiseTo floor second) first := by
  cases first with
  | none => rfl
  | some firstBound =>
    cases second with
    | none => rfl
    | some secondBound => exact max_right_comm _ _ _

/-- What the requests of one layer leave of the bounds. -/
def PolicyBounds.tighten (bounds : PolicyBounds)
    (policy : ConfigurationPolicyOverrides) : PolicyBounds where
  allowedLanguages := restrictTo bounds.allowedLanguages policy.allowedLanguages
  allowedMcpToolProfiles := restrictTo bounds.allowedMcpToolProfiles policy.allowedMcpToolProfiles
  maxSourceFileBytes := lowerTo bounds.maxSourceFileBytes policy.maxSourceFileBytes
  maxSourceFiles := lowerTo bounds.maxSourceFiles policy.maxSourceFiles
  maxQueryResults := lowerTo bounds.maxQueryResults policy.maxQueryResults
  maxContextBytes := lowerTo bounds.maxContextBytes policy.maxContextBytes
  maxGraphDepth := lowerTo bounds.maxGraphDepth policy.maxGraphDepth
  maxGraphResults := lowerTo bounds.maxGraphResults policy.maxGraphResults
  denyMemoryWrites := bounds.denyMemoryWrites || policy.denyMemoryWrites == some true
  followSymlinks := bounds.followSymlinks
  retainedGenerationsPerSourceSlot :=
    raiseTo bounds.retainedGenerationsPerSourceSlot
      policy.retention.retainedGenerationsPerSourceSlot
  maxGenerationCandidates :=
    lowerTo bounds.maxGenerationCandidates policy.retention.maxGenerationCandidates
  maxRows := lowerTo bounds.maxRows policy.retention.maxRows
  maxBytes := lowerTo bounds.maxBytes policy.retention.maxBytes

theorem PolicyBounds.tighten_le (bounds : PolicyBounds) (policy : ConfigurationPolicyOverrides) :
    bounds.tighten policy ≤ bounds where
  allowedLanguages := restrictTo_subset _ _
  allowedMcpToolProfiles := restrictTo_subset _ _
  maxSourceFileBytes := lowerTo_le _ _
  maxSourceFiles := lowerTo_le _ _
  maxQueryResults := lowerTo_le _ _
  maxContextBytes := lowerTo_le _ _
  maxGraphDepth := lowerTo_le _ _
  maxGraphResults := lowerTo_le _ _
  denyMemoryWrites denied := by simp [tighten, denied]
  followSymlinks := id
  retainedGenerationsPerSourceSlot := le_raiseTo _ _
  maxGenerationCandidates := lowerTo_le _ _
  maxRows := lowerTo_le _ _
  maxBytes := lowerTo_le _ _

theorem PolicyBounds.tighten_right_comm (bounds : PolicyBounds)
    (first second : ConfigurationPolicyOverrides) :
    (bounds.tighten first).tighten second = (bounds.tighten second).tighten first := by
  simp only [tighten, PolicyBounds.mk.injEq]
  exact ⟨restrictTo_right_comm _ _ _, restrictTo_right_comm _ _ _,
      lowerTo_right_comm _ _ _, lowerTo_right_comm _ _ _,
      lowerTo_right_comm _ _ _, lowerTo_right_comm _ _ _,
      lowerTo_right_comm _ _ _, lowerTo_right_comm _ _ _,
      Bool.or_right_comm _ _ _, trivial, raiseTo_right_comm _ _ _,
      lowerTo_right_comm _ _ _, lowerTo_right_comm _ _ _,
      lowerTo_right_comm _ _ _⟩

end Bounds

/-! ## The resolver refines the bounds -/

section Refinement

def EffectiveConfigurationPolicy.bounds (policy : EffectiveConfigurationPolicy) : PolicyBounds where
  allowedLanguages := policy.allowedLanguages.effective
  allowedMcpToolProfiles := policy.allowedMcpToolProfiles.effective
  maxSourceFileBytes := policy.maxSourceFileBytes.effective.toNat
  maxSourceFiles := policy.maxSourceFiles.effective.toNat
  maxQueryResults := policy.maxQueryResults.effective.toNat
  maxContextBytes := policy.maxContextBytes.effective.toNat
  maxGraphDepth := policy.maxGraphDepth.effective.toNat
  maxGraphResults := policy.maxGraphResults.effective.toNat
  denyMemoryWrites := policy.denyMemoryWrites.effective
  followSymlinks := policy.followSymlinks.effective
  retainedGenerationsPerSourceSlot :=
    policy.retention.retainedGenerationsPerSourceSlot.effective.toNat
  maxGenerationCandidates := policy.retention.maxGenerationCandidates.effective.toNat
  maxRows := policy.retention.maxRows.effective.toNat
  maxBytes := policy.retention.maxBytes.effective.toNat

namespace PolicyAccumulatorValue

theorem minimize_effective (value : PolicyAccumulatorValue UInt64) (requested : Option UInt64)
    (layer : ConfigurationLayerKind) :
    (value.minimize requested layer).effective.toNat = lowerTo value.effective.toNat requested := by
  cases requested with
  | none => rfl
  | some bound =>
    simp only [minimize, lowerTo, Option.elim_some]
    split
    next lower =>
      rw [UInt64.lt_iff_toNat_lt] at lower
      exact (Nat.min_eq_right lower.le).symm
    next notLower =>
      rw [UInt64.lt_iff_toNat_lt, Nat.not_lt] at notLower
      rw [Nat.min_eq_left notLower]
      split <;> rfl

theorem maximize_effective (value : PolicyAccumulatorValue UInt64) (requested : Option UInt64)
    (layer : ConfigurationLayerKind) :
    (value.maximize requested layer).effective.toNat = raiseTo value.effective.toNat requested := by
  cases requested with
  | none => rfl
  | some bound =>
    simp only [maximize, raiseTo, Option.elim_some]
    split
    next higher =>
      rw [UInt64.lt_iff_toNat_lt] at higher
      exact (Nat.max_eq_right higher.le).symm
    next notHigher =>
      rw [UInt64.lt_iff_toNat_lt, Nat.not_lt] at notHigher
      rw [Nat.max_eq_left notHigher]
      split <;> rfl

theorem intersect_effective {α : Type} [DecidableEq α] (value : PolicyAccumulatorValue (Finset α))
    (requested : Option (Finset α)) (layer : ConfigurationLayerKind) :
    (value.intersect requested layer).effective = restrictTo value.effective requested := by
  cases requested with
  | none => rfl
  | some kept =>
    simp only [intersect, restrictTo, Option.elim_some]
    split
    next => rfl
    next unchanged =>
      -- The layer is not recorded only when it removes nothing.
      exact (not_ne_iff.mp (not_or.mp unchanged).1).symm

theorem deny_effective (value : PolicyAccumulatorValue Bool) (requested : Option Bool)
    (layer : ConfigurationLayerKind) :
    (value.deny requested layer).effective = (value.effective || requested == some true) := by
  unfold deny
  split
  next denies => simp [denies]
  next allows => simp [allows]

theorem refuse_effective (value : PolicyAccumulatorValue Bool) (requested : Option Bool)
    (layer : ConfigurationLayerKind) :
    (value.refuse requested layer).effective = value.effective := by
  unfold refuse
  split <;> rfl

end PolicyAccumulatorValue

open PolicyAccumulatorValue in
theorem PolicyAccumulator.bounds_apply (accumulator : PolicyAccumulator)
    (layer : ConfigurationLayerKind) (policy : ConfigurationPolicyOverrides) :
    (accumulator.apply layer policy).finish.bounds = accumulator.finish.bounds.tighten policy := by
  simp only [apply, finish, EffectiveConfigurationPolicy.bounds,
    PolicyAccumulatorValue.finish, PolicyBounds.tighten,
    minimize_effective, maximize_effective, intersect_effective,
    deny_effective, refuse_effective]

/-- All layers together tighten the bounds by their requests in turn. -/
theorem PolicyAccumulator.bounds_foldl (layers : List ConfigurationLayer)
    (accumulator : PolicyAccumulator) :
    (layers.foldl (fun accumulator layer => accumulator.apply layer.kind layer.policy)
        accumulator).finish.bounds =
      (layers.map (·.policy)).foldl PolicyBounds.tighten accumulator.finish.bounds := by
  induction layers generalizing accumulator with
  | nil => rfl
  | cons layer rest hypothesis =>
    rw [List.foldl_cons, hypothesis, bounds_apply]
    rfl

end Refinement

/-! ## What resolution returns -/

section Resolution

variable {Digest : Type} {sha256 : List UInt8 → Digest} {layers : List ConfigurationLayer}
  {result : ResolvedConfiguration Digest}

theorem resolveConfiguration_ok (accepted : resolveConfiguration sha256 layers = .ok result) :
    result = resolveOrdered sha256 (orderLayers layers) := by
  unfold resolveConfiguration at accepted
  split at accepted
  · cases accepted
  · dsimp only at accepted
    split at accepted
    · cases accepted
    · exact (Except.ok.inj accepted).symm

theorem orderLayers_perm (layers : List ConfigurationLayer) : (orderLayers layers).Perm layers :=
  sortBy_perm _ layers

/-- The bounds of the result in terms of the supplied layers. -/
theorem bounds_of_resolveConfiguration
    (accepted : resolveConfiguration sha256 layers = .ok result) :
    result.policy.bounds =
      (layers.map (·.policy)).foldl PolicyBounds.tighten
        PolicyAccumulator.builtIn.finish.bounds := by
  have rightCommutative : RightCommutative PolicyBounds.tighten := ⟨PolicyBounds.tighten_right_comm⟩
  rw [resolveConfiguration_ok accepted]
  refine (PolicyAccumulator.bounds_foldl _ _).trans ?_
  exact ((orderLayers_perm layers).map _).foldl_eq _

theorem cap_effective_le (candidate : PreferenceCandidate UInt64)
    (ceiling : PolicyAccumulatorValue UInt64) :
    (cap candidate ceiling).effective ≤ ceiling.effective := by
  unfold cap
  split
  next => exact UInt64.le_refl _
  next notAbove => exact UInt64.not_lt.mp notAbove

theorem toolProfile_supplied (ordered : List ConfigurationLayer)
    (accumulator : PreferenceAccumulator) :
    let requested :=
      (ordered.foldl (fun accumulator layer => accumulator.apply layer.kind layer.preferences)
        accumulator).mcpToolProfile
    requested = accumulator.mcpToolProfile ∨
      ∃ layer ∈ ordered,
        layer.preferences.mcpToolProfile = some requested.value ∧
          layer.kind = requested.suppliedBy := by
  induction ordered generalizing accumulator with
  | nil => exact .inl rfl
  | cons layer rest hypothesis =>
    rcases hypothesis (accumulator.apply layer.kind layer.preferences) with
      kept | ⟨other, isOther, supplies⟩
    · cases preference : layer.preferences.mcpToolProfile with
      | none =>
        left
        rw [List.foldl_cons, kept]
        simp [PreferenceAccumulator.apply, PreferenceCandidate.replace, preference]
      | some profile =>
        right
        refine ⟨layer, List.mem_cons_self, ?_⟩
        rw [List.foldl_cons, kept]
        simp [PreferenceAccumulator.apply, PreferenceCandidate.replace, preference]
    · exact .inr ⟨other, List.mem_cons_of_mem layer isOther, supplies⟩

variable {profile : McpToolProfile}

theorem mem_allowed_of_mem_foldl {policies : List ConfigurationPolicyOverrides}
    {bounds : PolicyBounds}
    (left : profile ∈ (policies.foldl PolicyBounds.tighten bounds).allowedMcpToolProfiles) :
    profile ∈ bounds.allowedMcpToolProfiles ∧
      ∀ policy ∈ policies, ∀ allowed,
        policy.allowedMcpToolProfiles = some allowed → profile ∈ allowed := by
  induction policies generalizing bounds with
  | nil => exact ⟨left, fun _ isPolicy => nomatch isPolicy⟩
  | cons policy rest hypothesis =>
    obtain ⟨kept, restAllows⟩ := hypothesis left
    have initially := restrictTo_subset _ _ kept
    refine ⟨initially, ?_⟩
    intro other isOther allowed requests
    rcases List.mem_cons.mp isOther with rfl | isRest
    · simp only [PolicyBounds.tighten, restrictTo, requests,
        Option.elim_some, Finset.mem_inter] at kept
      exact kept.2
    · exact restAllows other isRest allowed requests

/-- An authorized profile is effective in policy, and one that is not
canonical was asked for by the user or on the command line. -/
theorem authorizeToolProfile_authorized {candidate : PreferenceCandidate McpToolProfile}
    {allowed : PolicyAccumulatorValue (Finset McpToolProfile)}
    (authorized : (authorizeToolProfile candidate allowed).authorized = some profile) :
    candidate.value = profile ∧
      profile ∈ allowed.effective ∧
      (profile = .canonical ∨ candidate.suppliedBy = .user ∨ candidate.suppliedBy = .cli) := by
  unfold authorizeToolProfile at authorized
  dsimp only at authorized
  split at authorized
  next holds =>
    obtain rfl := Option.some.inj authorized
    exact ⟨rfl, holds.2, holds.1⟩
  next => cases authorized

theorem authorized_of_resolveConfiguration
    (accepted : resolveConfiguration sha256 layers = .ok result)
    (authorized : result.preferences.mcpToolProfile.authorized = some profile)
    (noncanonical : profile ≠ .canonical) :
    (∃ layer ∈ layers,
      (layer.kind = .user ∨ layer.kind = .cli) ∧ layer.preferences.mcpToolProfile = some profile) ∧
      profile ∈ PolicyAccumulator.builtIn.allowedMcpToolProfiles.effective ∧
      ∀ layer ∈ layers, ∀ allowed,
        layer.policy.allowedMcpToolProfiles = some allowed → profile ∈ allowed := by
  have isEffective : profile ∈ result.policy.bounds.allowedMcpToolProfiles := by
    rw [resolveConfiguration_ok accepted] at authorized ⊢
    exact (authorizeToolProfile_authorized authorized).2.1
  rw [bounds_of_resolveConfiguration accepted] at isEffective
  obtain ⟨builtIn, layersAllow⟩ := mem_allowed_of_mem_foldl isEffective
  refine ⟨?_, builtIn, ?_⟩
  · rw [resolveConfiguration_ok accepted] at authorized
    obtain ⟨requested, _, source⟩ := authorizeToolProfile_authorized authorized
    rcases toolProfile_supplied (orderLayers layers)
        (.profileDefaults (resolveProfile (orderLayers layers)).1) with
      isDefault | ⟨layer, isLayer, asks, kind⟩
    · rw [isDefault] at requested
      exact absurd requested.symm noncanonical
    · refine ⟨layer, (orderLayers_perm layers).mem_iff.mp isLayer, ?_, ?_⟩
      · rw [kind]
        exact source.resolve_left noncanonical
      · rw [asks]
        exact congrArg some requested
  · intro layer isLayer
    exact layersAllow _ (List.mem_map_of_mem isLayer)

end Resolution

/-! ## Independence of layer order -/

section LayerOrder

variable {first second : List ConfigurationLayer}

theorem orderLayers_kinds_eq_of_perm (permutation : first.Perm second) :
    (orderLayers first).map (·.kind) = (orderLayers second).map (·.kind) := by
  have keys := @sortBy_keys_eq_of_perm _ Nat _ _ _
      (fun layer : ConfigurationLayer => layer.kind.precedence) _ _
      permutation
  refine List.map_injective_iff.mpr ConfigurationLayerKind.precedence_injective ?_
  rw [List.map_map, List.map_map]
  exact keys

/-- A sorted list without equal neighbors has no equal elements. -/
theorem nodup_of_adjacentDuplicate {kinds : List ConfigurationLayerKind}
    (sorted : kinds.Pairwise fun left right => left.precedence ≤ right.precedence)
    (noDuplicate : adjacentDuplicate kinds = none) :
    kinds.Nodup := by
  induction kinds with
  | nil => exact List.nodup_nil
  | cons head rest hypothesis =>
    obtain ⟨least, restSorted⟩ := List.pairwise_cons.mp sorted
    cases rest with
    | nil => exact List.nodup_singleton head
    | cons next later =>
      unfold adjacentDuplicate at noDuplicate
      split at noDuplicate
      · cases noDuplicate
      next different =>
        have restNodup := hypothesis restSorted noDuplicate
        refine List.nodup_cons.mpr ⟨?_, restNodup⟩
        intro isLater
        rcases List.mem_cons.mp isLater with same | inLater
        · exact different same
        · -- The next kind would lie between two equal ones.
          have above := least next List.mem_cons_self
          have below := (List.pairwise_cons.mp restSorted).1 head inLater
          exact different
            (ConfigurationLayerKind.precedence_injective (Nat.le_antisymm above below))

/-- Without two layers of one kind the arrangement is unique. -/
theorem orderLayers_eq_of_perm (permutation : first.Perm second)
    (noDuplicate : adjacentDuplicate ((orderLayers first).map (·.kind)) = none) :
    orderLayers first = orderLayers second := by
  have sorted :
      ((orderLayers first).map (·.kind)).Pairwise fun left right =>
        left.precedence ≤ right.precedence := by
    refine List.pairwise_map.mpr ((sortBy_sorted _ first).imp ?_)
    intro left right lower
    exact Nat.isLE_compare.mp lower
  have kindsNodup : (first.map (·.kind)).Nodup :=
    ((orderLayers_perm first).map _).nodup_iff.mp (nodup_of_adjacentDuplicate sorted noDuplicate)
  refine sortBy_eq_of_nodup_keys ?_ permutation
  have precedences := kindsNodup.map ConfigurationLayerKind.precedence_injective
  rw [List.map_map] at precedences
  exact precedences

theorem resolveConfiguration_eq_of_perm {Digest : Type} (sha256 : List UInt8 → Digest)
    (permutation : first.Perm second) :
    resolveConfiguration sha256 first = resolveConfiguration sha256 second := by
  have kinds := orderLayers_kinds_eq_of_perm permutation
  unfold resolveConfiguration
  rw [permutation.length_eq]
  split
  · rfl
  · dsimp only
    cases duplicate : adjacentDuplicate ((orderLayers first).map (·.kind)) with
    | some kind => rw [← kinds, duplicate]
    | none => rw [← kinds, duplicate, orderLayers_eq_of_perm permutation duplicate]

end LayerOrder

/--
One more layer only tightens the policy, wherever it is supplied; effective
preferences stay within the ceilings; a tool profile other than the canonical
one needs a user or command-line request and the consent of the built-in bounds
and of every layer; and the order of the layers changes nothing, the digest included.
-/
theorem configuration_layers_only_tighten {Digest : Type} (sha256 : List UInt8 → Digest) :
    (∀ layers larger layer before after, larger.Perm (layer :: layers) →
        resolveConfiguration sha256 layers = .ok before →
          resolveConfiguration sha256 larger = .ok after →
            after.policy.bounds.TighterThan before.policy.bounds) ∧
      (∀ layers result, resolveConfiguration sha256 layers = .ok result →
          result.preferences.queryResults.effective ≤ result.policy.maxQueryResults.effective ∧
            result.preferences.contextBytes.effective ≤ result.policy.maxContextBytes.effective ∧
            result.preferences.graphDepth.effective ≤ result.policy.maxGraphDepth.effective ∧
            result.preferences.graphResults.effective ≤ result.policy.maxGraphResults.effective) ∧
      (∀ layers result profile,
        resolveConfiguration sha256 layers = .ok result →
          result.preferences.mcpToolProfile.authorized = some profile →
            profile ≠ .canonical →
              (∃ layer ∈ layers,
                (layer.kind = .user ∨ layer.kind = .cli) ∧
                  layer.preferences.mcpToolProfile = some profile) ∧
                profile ∈ PolicyAccumulator.builtIn.allowedMcpToolProfiles.effective ∧
                ∀ layer ∈ layers, ∀ allowed,
                  layer.policy.allowedMcpToolProfiles = some allowed → profile ∈ allowed) ∧
      ∀ first second : List ConfigurationLayer, first.Perm second →
          resolveConfiguration sha256 first = resolveConfiguration sha256 second := by
  refine ⟨?_, ?_, ?_, ?_⟩
  · intro layers larger layer before after adds acceptedBefore acceptedAfter
    rw [bounds_of_resolveConfiguration acceptedBefore, bounds_of_resolveConfiguration acceptedAfter]
    exact foldl_le_of_perm_cons PolicyBounds.tighten_right_comm
      PolicyBounds.tighten_le (adds.map _) _
  · intro layers result accepted
    rw [resolveConfiguration_ok accepted]
    exact ⟨cap_effective_le _ _, cap_effective_le _ _, cap_effective_le _ _, cap_effective_le _ _⟩
  · intro layers result profile accepted authorized noncanonical
    exact authorized_of_resolveConfiguration accepted authorized noncanonical
  · intro first second permutation
    exact resolveConfiguration_eq_of_perm sha256 permutation

namespace Sample

def userLayer : ConfigurationLayer where
  kind := .user
  profile := some .localProfile
  preferences :=
    { ConfigurationPreferenceOverrides.default with
      queryResults := some 80
      queryResultsValid := by
        intro requested same
        cases same
        decide }
  policy :=
    { ConfigurationPolicyOverrides.default with
      denyMemoryWrites := some true }
  callerLayer := rfl
  profileSelection := fun _ => rfl

/-- A repository lowers the ceiling to 20 and tries to allow writes. -/
def repositoryLayer : ConfigurationLayer where
  kind := .repository
  profile := none
  preferences := .default
  policy :=
    { ConfigurationPolicyOverrides.default with
      allowedLanguages := some {.rust, .python}
      maxQueryResults := some 20
      denyMemoryWrites := some false
      maxQueryResultsValid := by
        intro requested same
        cases same
        decide }
  callerLayer := rfl
  profileSelection := fun selected => nomatch selected

end Sample

theorem configuration_layers_only_tighten_of_repository : ∃ before after,
      resolveConfiguration id [Sample.userLayer] = .ok before ∧
        resolveConfiguration id
            [Sample.repositoryLayer, Sample.userLayer] = .ok after ∧
        after.policy.bounds.TighterThan before.policy.bounds ∧
        after.preferences.queryResults.effective = 20 ∧
        after.policy.denyMemoryWrites.effective = true :=
  ⟨_, _, rfl, rfl, (configuration_layers_only_tighten id).1 [Sample.userLayer]
      [Sample.repositoryLayer, Sample.userLayer] Sample.repositoryLayer
      _ _ (List.Perm.refl _) rfl rfl,
    rfl, rfl⟩

end RepoWitness
