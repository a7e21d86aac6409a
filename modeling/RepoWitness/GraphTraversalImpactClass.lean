import RepoWitness.GraphTraversalEmission
import RepoWitness.GraphTraversalImpact
import RepoWitness.GraphTraversalCompleteness

namespace RepoWitness

open Std

/-!
# What an impact class says

Classes are propagated in one pass over the returned edges.  A definition ends
as directly connected exactly when some direct path to it, read from the start
outward, is a subsequence of the returned edges.  Such a path shows that the
class is sound.  A direct path whose edges are emitted in another order is
missed, and then its definition is reported as merely possible.
-/

section DirectPaths

/-- Unique, extracted from direct syntax and not resolved by name alone. -/
def RustGraphTraversalEdge.IsDirect (edge : RustGraphTraversalEdge) : Prop :=
  edge.cardinality = .unique ∧
    edge.extractionEvidence = .directSyntax ∧ edge.resolutionEvidence ≠ .exactNameHeuristic

instance (edge : RustGraphTraversalEdge) : Decidable edge.IsDirect :=
  inferInstanceAs (Decidable (_ ∧ _))

/-- A path of direct edges into the start, listed from the start outward. -/
inductive DirectPath (start : RustGraphDefinitionIdentity) :
    List RustGraphTraversalEdge → RustGraphDefinitionIdentity → Prop where
  | nil : DirectPath start [] start
  | snoc {path : List RustGraphTraversalEdge} {edge : RustGraphTraversalEdge}
      (inner : DirectPath start path edge.target)
      (direct : edge.IsDirect) :
      DirectPath start (path ++ [edge]) edge.source

theorem propagatedClass_eq_direct_iff {parent : RustGraphImpactClass}
    {edge : RustGraphTraversalEdge} :
    propagatedClass parent edge = .directlyConnected ↔
      parent = .directlyConnected ∧ edge.IsDirect := by
  unfold propagatedClass RustGraphTraversalEdge.IsDirect
  cases edge.cardinality <;> cases edge.extractionEvidence <;>
    simp [RustGraphRelationshipCardinality.isAmbiguous]

theorem strongest_eq_direct_iff {first second : RustGraphImpactClass} :
    (if compare first second = .lt then first else second) = .directlyConnected ↔
      first = .directlyConnected ∨ second = .directlyConnected := by
  cases first <;> cases second <;> decide

theorem DirectPath.last {start definition : RustGraphDefinitionIdentity}
    {path : List RustGraphTraversalEdge} (direct : DirectPath start path definition) :
    (path = [] ∧ definition = start) ∨
      ∃ inner edge,
        path = inner ++ [edge] ∧ DirectPath start inner edge.target ∧
          edge.IsDirect ∧ edge.source = definition := by
  cases direct with
  | nil => exact .inl ⟨rfl, rfl⟩
  | snoc inner isDirect => exact .inr ⟨_, _, rfl, inner, isDirect, rfl⟩

end DirectPaths

section Propagation

variable {start : RustGraphDefinitionIdentity}

def ReachedInOrder (start : RustGraphDefinitionIdentity) (edges : List RustGraphTraversalEdge)
    (definition : RustGraphDefinitionIdentity) : Prop :=
  ∃ path, DirectPath start path definition ∧ path.Sublist edges

variable {edges : List RustGraphTraversalEdge} {definition : RustGraphDefinitionIdentity}
  {results : List RustGraphTraceEdge} {traced : RustGraphTraceEdge}

theorem ReachedInOrder.append (reached : ReachedInOrder start edges definition)
    (more : List RustGraphTraversalEdge) :
    ReachedInOrder start (edges ++ more) definition := by
  obtain ⟨path, direct, sublist⟩ := reached
  exact ⟨path, direct, sublist.trans (List.sublist_append_left _ _)⟩

theorem reachedInOrder_append_iff {edge : RustGraphTraversalEdge} :
    ReachedInOrder start (edges ++ [edge]) definition ↔
      ReachedInOrder start edges definition ∨
        edge.source = definition ∧ edge.IsDirect ∧ ReachedInOrder start edges edge.target := by
  constructor
  · rintro ⟨path, direct, sublist⟩
    obtain ⟨early, late, rfl, earlySublist, lateSublist⟩ := List.sublist_append_iff.mp sublist
    rcases List.sublist_singleton.mp lateSublist with rfl | rfl
    · rw [List.append_nil] at direct
      exact .inl ⟨early, direct, earlySublist⟩
    · rcases direct.last with ⟨empty, _⟩ | ⟨inner, last, shape, rest⟩
      · simp at empty
      · obtain ⟨rfl, same⟩ := List.append_inj' shape rfl
        obtain rfl := List.singleton_inj.mp same
        obtain ⟨innerDirect, isDirect, leaves⟩ := rest
        exact .inr ⟨leaves, isDirect, early, innerDirect, earlySublist⟩
  · rintro (reached | ⟨rfl, isDirect, path, direct, sublist⟩)
    · exact reached.append [edge]
    · exact ⟨path ++ [edge], .snoc direct isDirect, sublist.append (List.Sublist.refl [edge])⟩

theorem ReachedInOrder.leaves (reached : ReachedInOrder start edges definition) :
    definition = start ∨ ∃ edge ∈ edges, edge.source = definition := by
  obtain ⟨path, direct, sublist⟩ := reached
  rcases direct.last with ⟨_, isStart⟩ | ⟨inner, edge, rfl, _, _, leaves⟩
  · exact .inl isStart
  · exact .inr ⟨edge, sublist.subset (by simp), leaves⟩

theorem StrongestImpacts.getElem?_record (strongest : StrongestImpacts)
    (definition other : RustGraphDefinitionIdentity) (impactClass : RustGraphImpactClass)
    (depth : Nat) :
    (strongest.record definition impactClass depth)[other]? =
      if definition = other then
        some (match strongest[definition]? with
          | none => (impactClass, depth)
          | some (currentClass, currentDepth) =>
            (if compare impactClass currentClass = .lt then
                impactClass
              else
                currentClass,
              min currentDepth depth))
      else
        strongest[other]? := by
  unfold StrongestImpacts.record
  cases strongest[definition]? with
  | none => simp [TreeMap.getElem?_insert]
  | some current =>
    obtain ⟨currentClass, currentDepth⟩ := current
    simp [TreeMap.getElem?_insert]

def LeavingDepths (results : List RustGraphTraceEdge)
    (definition : RustGraphDefinitionIdentity) : Set Nat :=
  { depth | ∃ traced ∈ results, traced.relationship.source = definition ∧ traced.depth = depth }

/-- What an entry of the map says about the returned edges. -/
structure EntryExact (start : RustGraphDefinitionIdentity) (results : List RustGraphTraceEdge)
    (definition : RustGraphDefinitionIdentity) (entry : RustGraphImpactClass × Nat) : Prop where
  depth : definition ≠ start → IsLeast (LeavingDepths results definition) entry.2
  direct :
    entry.1 = .directlyConnected ↔ ReachedInOrder start (results.map (·.relationship)) definition
  known : entry.1 ≠ .unknown

/-- What the map holds after the returned edges have been handled. -/
structure Summarises (start : RustGraphDefinitionIdentity) (results : List RustGraphTraceEdge)
    (strongest : StrongestImpacts) : Prop where
  present : ∀ definition,
      strongest[definition]?.isSome = true ↔ Discovered .inbound start results definition
  entries : ∀ definition entry,
      strongest[definition]? = some entry → EntryExact start results definition entry

theorem Summarises.initial : Summarises start []
      ((∅ : StrongestImpacts).insert start (.directlyConnected, 0)) := by
  have entry : ∀ definition,
        ((∅ : StrongestImpacts).insert start (.directlyConnected, 0))[definition]? =
          if start = definition then
            some (.directlyConnected, 0)
          else
            none := by
    intro definition
    simp [TreeMap.getElem?_insert]
  constructor
  · intro definition
    rw [entry]
    unfold Discovered
    by_cases isStart : start = definition
    · simp [isStart]
    · simp [isStart, Ne.symm isStart]
  · intro definition found isFound
    rw [entry] at isFound
    split at isFound
    next isStart =>
      cases isFound
      subst isStart
      exact ⟨fun different => absurd rfl different,
        ⟨fun _ => ⟨[], .nil, List.Sublist.refl []⟩, fun _ => rfl⟩,
        by decide⟩
    next => cases isFound

theorem discovered_append_iff {direction : RustGraphTraceDirection} :
    Discovered direction start (results ++ [traced]) definition ↔
      Discovered direction start results definition ∨
        orientedNeighbor direction traced.relationship = definition := by
  unfold Discovered
  simp only [List.mem_append, List.mem_singleton, or_and_right, exists_or, exists_eq_left, or_assoc]

theorem leavingDepths_append (results : List RustGraphTraceEdge) (traced : RustGraphTraceEdge) :
    LeavingDepths (results ++ [traced]) traced.relationship.source =
      insert traced.depth (LeavingDepths results traced.relationship.source) := by
  ext depth
  simp only [LeavingDepths, List.mem_append, List.mem_singleton,
    or_and_right, exists_or, exists_eq_left, true_and,
    Set.mem_ofPred_eq, Set.mem_insert_iff]
  rw [or_comm, @eq_comm _ depth]

theorem leavingDepths_append_of_ne (different : traced.relationship.source ≠ definition) :
    LeavingDepths (results ++ [traced]) definition = LeavingDepths results definition := by
  ext depth
  simp [LeavingDepths, or_and_right, exists_or, different]

section Record

variable {results : List RustGraphTraceEdge} {traced : RustGraphTraceEdge}
  {definition : RustGraphDefinitionIdentity} {entry : RustGraphImpactClass × Nat}

/-- An edge that leaves another definition keeps an entry exact. -/
theorem EntryExact.of_ne (exact : EntryExact start results definition entry)
    (different : traced.relationship.source ≠ definition) :
    EntryExact start (results ++ [traced]) definition entry where
  depth isOther := by
    rw [leavingDepths_append_of_ne different]
    exact exact.depth isOther
  direct := by
    rw [exact.direct, List.map_append, List.map_singleton, reachedInOrder_append_iff]
    simp [different]
  known := exact.known

/-- The new class of a definition that an edge leaves. -/
theorem propagatedClass_exact {parentClass : RustGraphImpactClass}
    (parent : parentClass = .directlyConnected ↔
        ReachedInOrder start (results.map (·.relationship)) traced.relationship.target) :
    ReachedInOrder start ((results ++ [traced]).map (·.relationship)) traced.relationship.source ↔
      ReachedInOrder start (results.map (·.relationship)) traced.relationship.source ∨
        propagatedClass parentClass traced.relationship = .directlyConnected := by
  rw [List.map_append, List.map_singleton, reachedInOrder_append_iff,
    propagatedClass_eq_direct_iff, parent]
  simp only [true_and]
  rw [and_comm]

theorem propagatedClass_known (parentClass : RustGraphImpactClass) (edge : RustGraphTraversalEdge) :
    propagatedClass parentClass edge ≠ .unknown := by
  unfold propagatedClass
  split <;> decide

end Record

/-- An edge that leaves a definition for the first time sets its depth. -/
theorem isLeast_of_undiscovered
    (absent : ¬Discovered .inbound start results traced.relationship.source) :
    IsLeast (LeavingDepths (results ++ [traced]) traced.relationship.source) traced.depth := by
  have unused : LeavingDepths results traced.relationship.source = ∅ := by
    refine Set.eq_empty_iff_forall_notMem.mpr ?_
    rintro depth ⟨earlier, isEarlier, leaves, _⟩
    exact absent (.inr ⟨earlier, isEarlier, leaves⟩)
  rw [leavingDepths_append, unused, insert_empty_eq]
  exact isLeast_singleton

theorem not_reachedInOrder_of_undiscovered
    (absent : ¬Discovered .inbound start results definition) :
    ¬ReachedInOrder start (results.map (·.relationship)) definition := by
  intro reached
  rcases reached.leaves with isStart | ⟨edge, isEdge, leaves⟩
  · exact absent (.inl isStart)
  · obtain ⟨traced, isTraced, rfl⟩ := List.mem_map.mp isEdge
    exact absent (.inr ⟨traced, isTraced, leaves⟩)

/-- Recording the class of one more edge extends the summary. -/
theorem Summarises.record {strongest : StrongestImpacts} {parent : RustGraphImpactClass × Nat}
    (summarises : Summarises start results strongest)
    (found : strongest[traced.relationship.target]? = some parent) :
    Summarises start (results ++ [traced])
      (strongest.record traced.relationship.source (propagatedClass parent.1 traced.relationship)
        traced.depth) := by
  have reached := propagatedClass_exact (summarises.entries _ _ found).direct
  constructor
  · intro definition
    rw [StrongestImpacts.getElem?_record, discovered_append_iff, ← summarises.present]
    change _ ↔ _ ∨ traced.relationship.source = definition
    split
    next same => simp [same]
    next different => simp [different]
  · intro definition entry isFound
    rw [StrongestImpacts.getElem?_record] at isFound
    split at isFound
    next same =>
      subst same
      cases current : strongest[traced.relationship.source]? with
      | none =>
        rw [current] at isFound
        cases isFound
        have absent : ¬Discovered .inbound start results traced.relationship.source := by
          rw [← summarises.present, current]
          simp
        refine ⟨fun _ => ?_, ?_, propagatedClass_known _ _⟩
        · exact isLeast_of_undiscovered absent
        · rw [reached]
          have unreached := not_reachedInOrder_of_undiscovered absent
          exact (or_iff_right unreached).symm
      | some old =>
        rw [current] at isFound
        cases isFound
        have exact := summarises.entries _ _ current
        refine ⟨fun isOther => ?_, ?_, ?_⟩
        · rw [leavingDepths_append]
          dsimp only
          rw [min_comm]
          exact (exact.depth isOther).insert _
        · rw [reached, ← exact.direct]
          exact strongest_eq_direct_iff.trans or_comm
        · dsimp only
          split
          · exact propagatedClass_known _ _
          · exact exact.known
    next different => exact (summarises.entries _ _ isFound).of_ne different

/-- The loop over the edges is a loop over a first part and the rest. -/
theorem propagateImpacts_append (first second : List RustGraphTraceEdge)
    (strongest : StrongestImpacts) (unknown : Bool) :
    propagateImpacts (first ++ second) strongest unknown =
      propagateImpacts first strongest unknown >>= fun state =>
        propagateImpacts second state.1 state.2 := by
  induction first generalizing strongest unknown with
  | nil => rfl
  | cons traced rest hypothesis =>
    rw [List.cons_append, propagateImpacts, propagateImpacts]
    cases strongest[traced.relationship.target]? with
    | none => rfl
    | some parent => exact hypothesis _ _

/-- The loop handles every edge and summarises all of them. -/
theorem propagateImpacts_ok (inOrder : DiscoveredInOrder .inbound start results) :
    ∃ strongest unknown,
      propagateImpacts results ((∅ : StrongestImpacts).insert start (.directlyConnected, 0)) false =
        .ok (strongest, unknown) ∧
      Summarises start results strongest := by
  induction inOrder with
  | nil => exact ⟨_, _, rfl, Summarises.initial⟩
  | @snoc results traced earlier leaves hypothesis =>
    obtain ⟨strongest, unknown, propagated, summarises⟩ := hypothesis
    obtain ⟨parent, found⟩ := Option.isSome_iff_exists.mp ((summarises.present _).mpr leaves)
    change strongest[traced.relationship.target]? = some parent at found
    refine ⟨_, unknown || traced.relationship.cardinality.candidatesTruncated,
        ?_, summarises.record found⟩
    rw [propagateImpacts_append, propagated, except_ok_bind]
    simp only [propagateImpacts, found]

end Propagation

section Reported

/-- The entries of the map as they are reported, before sorting. -/
def StrongestImpacts.reported (strongest : StrongestImpacts)
    (start : RustGraphDefinitionIdentity) : List RustGraphImpact :=
  (strongest.toList.filter
    (fun entry => decide (entry.1 ≠ start))).map (fun entry => ⟨entry.2.1, entry.1, entry.2.2⟩)

theorem StrongestImpacts.mem_reported {strongest : StrongestImpacts}
    {start : RustGraphDefinitionIdentity} {item : RustGraphImpact} :
    item ∈ strongest.reported start ↔ item.definition ≠ start ∧
        strongest[item.definition]? = some (item.impactClass, item.minimumDepth) := by
  unfold StrongestImpacts.reported
  simp only [List.mem_map, List.mem_filter, decide_eq_true_eq]
  constructor
  · rintro ⟨⟨definition, entry⟩, ⟨found, isOther⟩, rfl⟩
    exact ⟨isOther, TreeMap.mem_toList_iff_getElem?_eq_some.mp found⟩
  · rintro ⟨isOther, found⟩
    exact ⟨(item.definition, item.impactClass, item.minimumDepth),
      ⟨TreeMap.mem_toList_iff_getElem?_eq_some.mpr found, isOther⟩,
      rfl⟩

theorem StrongestImpacts.nodup_reported (strongest : StrongestImpacts)
    (start : RustGraphDefinitionIdentity) :
    ((strongest.reported start).map (·.definition)).Nodup := by
  have keys : (strongest.toList.map Prod.fst).Nodup := by
    rw [TreeMap.map_fst_toList_eq_keys]
    exact TreeMap.nodup_keys
  unfold StrongestImpacts.reported
  rw [List.map_map]
  exact keys.sublist (List.filter_sublist.map _)

end Reported

section Analysis

instance : TransOrd RustGraphImpactClass :=
  inferInstanceAs (TransCmp (compareOn RustGraphImpactClass.ctorIdx))

instance : LawfulEqOrd RustGraphImpactClass where
  eq_of_compare {first second} same := by cases first <;> cases second <;> first | rfl | cases same

instance : TransCmp compareImpact := inferInstanceAs (TransCmp (compareLex _ _))

instance : LawfulEqCmp compareImpact where
  eq_of_compare {first second} same := by
    simp only [compareImpact, compareLex_eq_eq, compareOn, LawfulEqOrd.compare_eq_iff_eq] at same
    cases first
    cases second
    simp_all

theorem checkedAdd_ne_invalidEdge (first second : Nat) :
    checkedAdd first second ≠ .error .invalidEdge := by
  unfold checkedAdd
  split <;> simp

theorem except_bind_ne_error {ε α β : Type} {error : ε} {first : Except ε α} {next : α → Except ε β}
    (firstPasses : first ≠ .error error) (nextPasses : ∀ value, next value ≠ .error error) :
    first >>= next ≠ .error error := by
  cases first with
  | error other =>
    intro same
    exact firstPasses (congrArg Except.error (Except.error.inj same))
  | ok value => exact nextPasses value

/-- The output accounting has no error of its own but overflow and size. -/
theorem sumImpactBytes_ne_invalidEdge (limits : RustGraphTraceLimits) (outputBytes : Nat)
    (impacted : List RustGraphImpact) :
    sumImpactBytes limits outputBytes impacted ≠ .error .invalidEdge := by
  induction impacted generalizing outputBytes with
  | nil => exact fun same => nomatch same
  | cons item rest hypothesis =>
    unfold sumImpactBytes
    refine except_bind_ne_error (checkedAdd_ne_invalidEdge _ _) ?_
    intro definitionBytes
    refine except_bind_ne_error (checkedAdd_ne_invalidEdge _ _) ?_
    intro fixed
    refine except_bind_ne_error (checkedAdd_ne_invalidEdge _ _) ?_
    intro total
    split
    · exact fun same => nomatch same
    · exact hypothesis total

variable {sorter : UnstableSort} {request : RustGraphImpactRequest} {result : RustGraphImpactResult}

theorem analyzeRustGraphImpact_of_trace {trace : RustGraphTraceResult}
    (accepted : traceRustGraph sorter request.traceRequest = .ok trace) :
    ∃ strongest, Summarises request.start trace.edges strongest ∧
        analyzeRustGraphImpact sorter request ≠ .error .invalidEdge ∧
        ∀ result, analyzeRustGraphImpact sorter request = .ok result →
            result.trace = trace ∧ result.impacted.Perm (strongest.reported request.start) := by
  obtain ⟨inOrder, _⟩ := @emission_of_traceRustGraph _ _ request.start _ rfl accepted
  obtain ⟨strongest, unknown, propagated, summarises⟩ := propagateImpacts_ok inOrder
  refine ⟨strongest, summarises, ?_⟩
  unfold analyzeRustGraphImpact
  rw [accepted]
  dsimp only [except_ok_bind]
  rw [propagated]
  dsimp only [except_ok_bind]
  constructor
  · refine except_bind_ne_error (checkedAdd_ne_invalidEdge _ _) ?_
    intro fixed
    refine except_bind_ne_error (sumImpactBytes_ne_invalidEdge _ _ _) ?_
    exact fun _ same => nomatch same
  · intro result analyzed
    simp only [except_bind_eq_ok_iff] at analyzed
    obtain ⟨fixed, _, outputBytes, _, returned⟩ := analyzed
    cases returned
    exact ⟨rfl, List.mergeSort_perm _ _⟩

theorem analyzeRustGraphImpact_trace
    (analyzed : analyzeRustGraphImpact sorter request = .ok result) :
    traceRustGraph sorter request.traceRequest = .ok result.trace := by
  obtain ⟨trace, accepted, _⟩ := except_bind_eq_ok_iff.mp analyzed
  obtain ⟨_, _, _, results⟩ := analyzeRustGraphImpact_of_trace accepted
  rw [(results result analyzed).1]
  exact accepted

theorem impacted_exact (analyzed : analyzeRustGraphImpact sorter request = .ok result) :
    (result.impacted.map (·.definition)).Nodup ∧
      (∀ item ∈ result.impacted, item.definition ≠ request.start ∧
          Discovered .inbound request.start result.trace.edges item.definition ∧
          EntryExact request.start result.trace.edges item.definition
            (item.impactClass, item.minimumDepth)) ∧
      ∀ definition, definition ≠ request.start →
          Discovered .inbound request.start result.trace.edges definition →
            ∃ item ∈ result.impacted, item.definition = definition := by
  obtain ⟨strongest, summarises, _, results⟩ :=
    analyzeRustGraphImpact_of_trace (analyzeRustGraphImpact_trace analyzed)
  obtain ⟨_, permutation⟩ := results result analyzed
  refine ⟨?_, ?_, ?_⟩
  · exact (permutation.map _).nodup_iff.mpr (strongest.nodup_reported request.start)
  · intro item isItem
    obtain ⟨isOther, found⟩ := StrongestImpacts.mem_reported.mp (permutation.mem_iff.mp isItem)
    have isPresent := summarises.present item.definition
    rw [found] at isPresent
    exact ⟨isOther, isPresent.mp rfl, summarises.entries _ _ found⟩
  · intro definition isOther discovered
    obtain ⟨⟨impactClass, depth⟩, found⟩ :=
      Option.isSome_iff_exists.mp ((summarises.present definition).mpr discovered)
    exact ⟨⟨impactClass, definition, depth⟩,
        permutation.mem_iff.mpr (StrongestImpacts.mem_reported.mpr ⟨isOther, found⟩),
        rfl⟩

/--
Once the inbound trace is accepted, the analysis does not meet an unclassified
parent.  It reports exactly the sources of the returned edges other than the
start, once each and with the least depth at which one leaves them; and what it
reports as directly connected has a direct path of returned edges.
-/
theorem impact_summarises_trace {sorter : UnstableSort} {request : RustGraphImpactRequest}
    {trace : RustGraphTraceResult}
    (accepted : traceRustGraph sorter request.traceRequest = .ok trace) :
    analyzeRustGraphImpact sorter request ≠ .error .invalidEdge ∧
      ∀ result, analyzeRustGraphImpact sorter request = .ok result →
          result.trace = trace ∧
            (result.impacted.map (·.definition)).Nodup ∧
            (∀ definition, definition ∈ result.impacted.map (·.definition) ↔
                definition ≠ request.start ∧
                  ∃ traced ∈ trace.edges, traced.relationship.source = definition) ∧
            ∀ item ∈ result.impacted,
              IsLeast (LeavingDepths trace.edges item.definition) item.minimumDepth ∧
                (item.impactClass = .directlyConnected → ∃ path,
                    DirectPath request.start path item.definition ∧
                      path ⊆ trace.edges.map (·.relationship)) := by
  obtain ⟨_, _, noInvalidEdge, results⟩ := analyzeRustGraphImpact_of_trace accepted
  refine ⟨noInvalidEdge, ?_⟩
  intro result analyzed
  obtain ⟨rfl, _⟩ := results result analyzed
  obtain ⟨nodup, items, reported⟩ := impacted_exact analyzed
  refine ⟨rfl, nodup, ?_, ?_⟩
  · intro definition
    rw [List.mem_map]
    constructor
    · rintro ⟨item, isItem, rfl⟩
      obtain ⟨isOther, discovered, _⟩ := items item isItem
      exact ⟨isOther, discovered.resolve_left isOther⟩
    · rintro ⟨isOther, leaves⟩
      exact reported definition isOther (.inr leaves)
  · intro item isItem
    obtain ⟨isOther, _, exact⟩ := items item isItem
    refine ⟨exact.depth isOther, ?_⟩
    intro isDirect
    obtain ⟨path, direct, sublist⟩ := exact.direct.mp isDirect
    exact ⟨path, direct, sublist.subset⟩

end Analysis

namespace Sample

def impactRequest (edges : List RustGraphTraversalEdge)
    (start : RustGraphDefinitionIdentity) : RustGraphImpactRequest where
  edges := edges
  start := start
  edgeKinds := .all
  limits := .default
  coverage := ⟨0, 0, 0, 0, 0, 0, 0, 0⟩
  control := .never

/-- The inbound trace of a chain of two calls. -/
def chainTrace : RustGraphTraceResult where
  edges := [⟨1, call 2 1 1⟩, ⟨2, call 3 2 2⟩]
  visitedNodes := 3
  visitedEdges := 2
  maximumCompletedDepth := 3
  truncation := .none
  coverage := ⟨0, 0, 0, 0, 0, 0, 0, 0⟩
  inputBytes := 678
  outputBytes := 814

/-- The impact of the end of a chain of two calls. -/
def chainImpact : RustGraphImpactResult where
  trace := chainTrace
  impacted := [⟨.directlyConnected, definition 2, 1⟩, ⟨.directlyConnected, definition 3, 2⟩]
  unknownCoverage := false
  outputBytes := 1112

theorem chainTrace_computed : traceRustGraph insertionSorter
        (impactRequest [call 2 1 1, call 3 2 2] (definition 1)).traceRequest =
      .ok chainTrace := by
  decide +kernel

theorem chainImpact_computed : analyzeRustGraphImpact insertionSorter
        (impactRequest [call 2 1 1, call 3 2 2] (definition 1)) =
      .ok chainImpact := by
  unfold analyzeRustGraphImpact
  rw [chainTrace_computed]
  simp only [mergeSort_isLE_eq_sortBy]
  decide +kernel

end Sample

theorem impact_summarises_trace_of_chain : analyzeRustGraphImpact insertionSorter
          (Sample.impactRequest [Sample.call 2 1 1, Sample.call 3 2 2] (Sample.definition 1)) =
        .ok Sample.chainImpact ∧
      ∃ path, DirectPath (Sample.definition 1) path (Sample.definition 3) ∧
          path ⊆ Sample.chainTrace.edges.map (·.relationship) := by
  obtain ⟨_, _, _, items⟩ :=
    (impact_summarises_trace Sample.chainTrace_computed).2 _ Sample.chainImpact_computed
  obtain ⟨_, direct⟩ :=
    items ⟨.directlyConnected, Sample.definition 3, 2⟩ (by simp [Sample.chainImpact])
  exact ⟨Sample.chainImpact_computed, direct rfl⟩

section DirectPathsOrdered

/-- The order in which an untruncated analysis handles two edges. -/
def RustGraphImpactRequest.HandledBefore (request : RustGraphImpactRequest)
    (first second : RustGraphTraversalEdge) : Prop :=
  ∃ firstDistance secondDistance,
    (request.traceRequest.definitionSearch request.start).AtDistance firstDistance first.target ∧
      (request.traceRequest.definitionSearch request.start).AtDistance
        secondDistance second.target ∧
      (firstDistance < secondDistance ∨
        firstDistance = secondDistance ∧ compareRelationship first second = .lt)

/-- A definition with a direct path of allowed edges has one whose edges are
handled from the start outward. -/
def RustGraphImpactRequest.DirectPathsOrdered (request : RustGraphImpactRequest) : Prop :=
  ∀ definition path, definition ≠ request.start →
      DirectPath request.start path definition →
        (∀ edge ∈ path, request.traceRequest.Follows edge) → ∃ ordered,
            DirectPath request.start ordered definition ∧
              (∀ edge ∈ ordered, request.traceRequest.Follows edge) ∧
              ordered.Pairwise request.HandledBefore

variable {sorter : UnstableSort} {request : RustGraphImpactRequest} {trace : RustGraphTraceResult}

theorem RustGraphImpactRequest.HandledBefore.asymm {first second : RustGraphTraversalEdge}
    (before : request.HandledBefore first second) :
    ¬request.HandledBefore second first := by
  rintro ⟨secondDistance, firstDistance, atSecond, atFirst, after⟩
  obtain ⟨firstAgain, secondAgain, atFirst', atSecond', before⟩ := before
  obtain rfl := atFirst.unique atFirst'
  obtain rfl := atSecond.unique atSecond'
  rcases before with lower | ⟨_, lower⟩
  · rcases after with upper | ⟨same, _⟩ <;> omega
  · rcases after with upper | ⟨_, upper⟩
    · omega
    · rw [@OrientedCmp.eq_swap _ compareRelationship, lower] at upper
      cases upper

theorem sublist_of_subset_of_pairwise {α : Type} {relation : α → α → Prop}
    (asymm : ∀ {first second}, relation first second → ¬relation second first) {part whole : List α}
    (members : part ⊆ whole) (partOrdered : part.Pairwise relation)
    (wholeOrdered : whole.Pairwise relation) :
    part.Sublist whole := by
  have irreflexive : Std.Irrefl relation := ⟨fun _ same => asymm same same⟩
  have antisymmetric : Std.Antisymm relation := ⟨fun _ _ lower upper => absurd upper (asymm lower)⟩
  exact List.sublist_of_subperm_of_pairwise (List.subperm_of_subset partOrdered.nodup members)
    partOrdered wholeOrdered

variable {path : List RustGraphTraversalEdge} {definition : RustGraphDefinitionIdentity}

theorem DirectPath.reaches (direct : DirectPath request.start path definition)
    (allowed : ∀ edge ∈ path, request.traceRequest.Follows edge) :
    (request.traceRequest.definitionSearch request.start).Reaches
      definition := by
  induction direct with
  | nil => exact ⟨0, .source rfl id⟩
  | @snoc path edge inner isDirect hypothesis =>
    obtain ⟨length, reached⟩ :=
      hypothesis fun other isOther => allowed other (List.mem_append_left _ isOther)
    exact ⟨length + 1, SearchProblem.ReachesIn.step reached (allowed edge (by simp)) id⟩

section Untruncated

variable (accepted : traceRustGraph sorter request.traceRequest = .ok trace)
  (untruncated : trace.truncation.any = false)

include accepted untruncated

theorem pairwise_handledBefore :
    (trace.edges.map (·.relationship)).Pairwise request.HandledBefore := by
  have results := @results_of_definition_trace _ _ request.start _ rfl accepted untruncated
  obtain ⟨_, ordered⟩ := @emission_of_traceRustGraph _ _ request.start _ rfl accepted
  rw [List.pairwise_map]
  refine ordered.imp_of_mem ?_
  intro first second isFirst isSecond before
  obtain ⟨firstDistance, firstDepth, _, atFirst⟩ := (results first).mp isFirst
  obtain ⟨secondDistance, secondDepth, _, atSecond⟩ := (results second).mp isSecond
  refine ⟨firstDistance, secondDistance, atFirst, atSecond, ?_⟩
  rcases before with deeper | ⟨same, lower⟩
  · left
    omega
  · right
    exact ⟨by omega, lower⟩

theorem DirectPath.returned (direct : DirectPath request.start path definition)
    (allowed : ∀ edge ∈ path, request.traceRequest.Follows edge) :
    path ⊆ trace.edges.map (·.relationship) := by
  induction direct with
  | nil => exact List.nil_subset _
  | @snoc path edge inner isDirect hypothesis =>
    have innerAllowed : ∀ other ∈ path, request.traceRequest.Follows other :=
      fun other isOther => allowed other (List.mem_append_left _ isOther)
    obtain ⟨distance, atDistance⟩ :=
      SearchProblem.reaches_iff_exists_atDistance.mp (inner.reaches innerAllowed)
    have results :=
      @results_of_definition_trace _ _ request.start _ rfl accepted untruncated ⟨distance + 1, edge⟩
    have isReturned : edge ∈ trace.edges.map (·.relationship) :=
      List.mem_map.mpr
        ⟨⟨distance + 1, edge⟩, results.mpr ⟨distance, rfl, allowed edge (by simp), atDistance⟩, rfl⟩
    exact List.append_subset.mpr ⟨hypothesis innerAllowed, by simpa using isReturned⟩

theorem follows_of_returned {edge : RustGraphTraversalEdge}
    (isReturned : edge ∈ trace.edges.map (·.relationship)) :
    request.traceRequest.Follows edge := by
  obtain ⟨traced, isTraced, rfl⟩ := List.mem_map.mp isReturned
  obtain ⟨_, _, followed, _⟩ :=
    (@results_of_definition_trace _ _ request.start _ rfl accepted untruncated traced).mp isTraced
  exact followed

/-- Over an untruncated trace the pass reaches a definition exactly along a
direct path in handling order. -/
theorem reachedInOrder_iff_ordered (definition : RustGraphDefinitionIdentity) :
    ReachedInOrder request.start (trace.edges.map (·.relationship)) definition ↔
      ∃ ordered, DirectPath request.start ordered definition ∧
          (∀ edge ∈ ordered, request.traceRequest.Follows edge) ∧
          ordered.Pairwise request.HandledBefore := by
  have inOrder := pairwise_handledBefore accepted untruncated
  constructor
  · rintro ⟨path, direct, sublist⟩
    refine ⟨path, direct, ?_, inOrder.sublist sublist⟩
    intro edge isEdge
    exact follows_of_returned accepted untruncated (sublist.subset isEdge)
  · rintro ⟨path, direct, allowed, ordered⟩
    exact ⟨path, direct,
      sublist_of_subset_of_pairwise RustGraphImpactRequest.HandledBefore.asymm
        (direct.returned accepted untruncated allowed) ordered inOrder⟩

end Untruncated

/--
In an untruncated analysis no definition reported as possible has a direct path
of returned edges, exactly when every definition with a direct path of allowed
edges has one whose edges are handled from the start outward.
-/
theorem possible_has_no_direct_path_iff {result : RustGraphImpactResult}
    (analyzed : analyzeRustGraphImpact sorter request = .ok result)
    (untruncated : result.trace.truncation.any = false) :
    (∀ item ∈ result.impacted, item.impactClass = .possible → ¬∃ path,
          DirectPath request.start path item.definition ∧
            path ⊆ result.trace.edges.map (·.relationship)) ↔
      request.DirectPathsOrdered := by
  have accepted := analyzeRustGraphImpact_trace analyzed
  obtain ⟨_, items, reported⟩ := impacted_exact analyzed
  constructor
  · intro unreached definition path isOther direct allowed
    have returned := direct.returned accepted untruncated allowed
    rcases direct.last with ⟨_, isStart⟩ | ⟨inner, edge, rfl, _, _, leaves⟩
    · exact absurd isStart isOther
    have isReturned : edge ∈ result.trace.edges.map (·.relationship) := returned (by simp)
    obtain ⟨traced, isTraced, rfl⟩ := List.mem_map.mp isReturned
    obtain ⟨item, isItem, rfl⟩ := reported definition isOther (.inr ⟨traced, isTraced, leaves⟩)
    obtain ⟨_, _, exact⟩ := items item isItem
    rw [← reachedInOrder_iff_ordered accepted untruncated, ← exact.direct]
    cases impactClass : item.impactClass with
    | directlyConnected => rfl
    | possible => exact absurd ⟨_, direct, returned⟩ (unreached item isItem impactClass)
    | unknown => exact absurd impactClass exact.known
  · rintro ordered item isItem isPossible ⟨path, direct, returned⟩
    obtain ⟨isOther, _, exact⟩ := items item isItem
    have reached := (reachedInOrder_iff_ordered accepted untruncated _).mpr
        (ordered item.definition path isOther direct fun edge isEdge =>
          follows_of_returned accepted untruncated (returned isEdge))
    have isDirect := exact.direct.mpr reached
    rw [isPossible] at isDirect
    cases isDirect

end DirectPathsOrdered

namespace Sample

/-- A call found by a heuristic. -/
def heuristicCall (source target : UInt8) (ordinal : Nat) : RustGraphTraversalEdge :=
  { call source target ordinal with
    extractionEvidence := .syntaxHeuristic }

/-- Declaration 3 reaches 4 by a heuristic call and directly through 2. -/
def upgradedRequest : RustGraphImpactRequest :=
  impactRequest [heuristicCall 3 4 1, call 2 4 2, call 3 2 3, call 1 3 4] (definition 4)

def upgradedTrace : RustGraphTraceResult where
  edges := [⟨1, call 2 4 2⟩, ⟨1, heuristicCall 3 4 1⟩, ⟨2, call 1 3 4⟩, ⟨2, call 3 2 3⟩]
  visitedNodes := 4
  visitedEdges := 4
  maximumCompletedDepth := 3
  truncation := .none
  coverage := ⟨0, 0, 0, 0, 0, 0, 0, 0⟩
  inputBytes := 1356
  outputBytes := 1532

/-- The call from 1 to 3 is handled before 3 is found to be direct. -/
def upgradedImpact : RustGraphImpactResult where
  trace := upgradedTrace
  impacted := [⟨.directlyConnected, definition 2, 1⟩,
      ⟨.directlyConnected, definition 3, 1⟩,
      ⟨.possible, definition 1, 2⟩]
  unknownCoverage := false
  outputBytes := 1947

end Sample

/-- A declaration with a returned direct path is reported as possible. -/
theorem possible_despite_direct_path :
    analyzeRustGraphImpact insertionSorter Sample.upgradedRequest = .ok Sample.upgradedImpact ∧
      Sample.upgradedImpact.trace.truncation.any = false ∧
      ⟨.possible, Sample.definition 1, 2⟩ ∈ Sample.upgradedImpact.impacted ∧
      ∃ path, DirectPath Sample.upgradedRequest.start path
            (Sample.definition 1) ∧
          path ⊆ Sample.upgradedImpact.trace.edges.map
              (·.relationship) := by
  refine ⟨?_, rfl, by simp [Sample.upgradedImpact], ?_⟩
  · unfold analyzeRustGraphImpact
    simp only [mergeSort_isLE_eq_sortBy]
    decide +kernel
  · have direct : DirectPath (Sample.definition 4)
          (([] ++ [Sample.call 2 4 2]) ++ [Sample.call 3 2 3] ++ [Sample.call 1 3 4])
          (Sample.definition 1) :=
      .snoc (.snoc (.snoc .nil (by decide)) (by decide)) (by decide)
    refine ⟨_, direct, ?_⟩
    simp [Sample.upgradedImpact, Sample.upgradedTrace]

theorem possible_has_no_direct_path_of_chain :
    (Sample.impactRequest [Sample.call 2 1 1, Sample.call 3 2 2]
      (Sample.definition 1)).DirectPathsOrdered := by
  have nonePossible : ∀ item ∈ Sample.chainImpact.impacted, item.impactClass ≠ .possible := by
    decide
  refine (possible_has_no_direct_path_iff Sample.chainImpact_computed rfl).mp ?_
  intro item isItem isPossible
  exact absurd isPossible (nonePossible item isItem)

end RepoWitness
