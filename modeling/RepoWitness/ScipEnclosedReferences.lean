import RepoWitness.SourceSlotEpochs

namespace RepoWitness

open Transaction

/-!
# References a callable encloses

The staging of an overlay projects its occurrences to edges between symbols.
A reference belongs to the definitions named by an innermost callable around
it, the edges of a document are numbered in the order of their occurrences, and
an edge that the store already has is left alone.
-/

section Innermost

/-- A callable around an occurrence such that no other one around it is declared
strictly inside. -/
structure Innermost (callables : List ArtifactFactRow) (fact : ArtifactFactRow)
    (occurrence : ByteSpan) : Prop where
  callable : fact ∈ callables
  encloses : spanContains fact.declarationSpan occurrence = true
  nothingInside : ∀ other ∈ callables, spanContains other.declarationSpan occurrence = true →
    spanContains fact.declarationSpan other.declarationSpan = true →
      other.declarationSpan = fact.declarationSpan

/-- Declarations as a parser nests them. -/
def NestedOrDisjoint (callables : List ArtifactFactRow) : Prop :=
  ∀ first ∈ callables, ∀ second ∈ callables,
    spanContains first.declarationSpan second.declarationSpan = true ∨
      spanContains second.declarationSpan first.declarationSpan = true ∨
      first.declarationSpan.stop ≤ second.declarationSpan.start ∨
      second.declarationSpan.stop ≤ first.declarationSpan.start

variable {callables : List ArtifactFactRow} {fact other : ArtifactFactRow} {occurrence : ByteSpan}

theorem Innermost.within (nested : NestedOrDisjoint callables)
    (innermost : Innermost callables fact occurrence) (nonempty : occurrence.isEmpty = false)
    (member : other ∈ callables) (around : spanContains other.declarationSpan occurrence = true) :
    spanContains other.declarationSpan fact.declarationSpan = true := by
  have width : occurrence.start ≠ occurrence.stop := by
    simpa [ByteSpan.isEmpty] using nonempty
  have ordered := occurrence.ordered
  rcases nested other member fact innermost.callable with outer | inner | before | behind
  · exact outer
  · rw [innermost.nothingInside other member around inner]
    simp [spanContains]
  all_goals
    have inFact := innermost.encloses
    simp only [spanContains, Bool.and_eq_true, decide_eq_true_eq] at inFact around
    omega

end Innermost

section Pairs

variable (store : Store) (overlay : Bytes32) (document generation : Nat)

/-- A definition of the document stands in the name of an innermost callable
around a reference, and the producer declares no relationship of the two. -/
structure ReferencesWithin (definition occurrence : ScipOverlayOccurrenceRow) : Prop where
  definitionOf : definition ∈ documentOccurrences store.rows overlay document
  occurrenceOf : occurrence ∈ documentOccurrences store.rows overlay document
  defines : isDefinitionOccurrence definition = true ∧ definition.symbol.isSome
  refers : isDefinitionOccurrence occurrence = false ∧ occurrence.symbol.isSome
  enclosed : ∃ fact,
    Innermost (documentCallables store.rows overlay document generation) fact occurrence.span ∧
      spanContains fact.nameSpan definition.span = true
  undeclared : ∀ source ∈ definition.symbol, ∀ target ∈ occurrence.symbol,
    relationshipDeclared store.rows overlay document source target = false

/-- First by the definition, then by the reference. -/
def Precedes (first second : ScipOverlayOccurrenceRow × ScipOverlayOccurrenceRow) : Prop :=
  first.1.ordinal < second.1.ordinal ∨
    first.1.ordinal = second.1.ordinal ∧ first.2.ordinal < second.2.ordinal

/-- The edge of a definition and a reference. -/
def edgeRow (numbered : (ScipOverlayOccurrenceRow × ScipOverlayOccurrenceRow) × Nat) :
    ScipRelationshipRow where
  overlay := overlay
  document := document
  ordinal := numbered.2
  sourceSymbol := numbered.1.1.symbol.getD []
  targetSymbol := numbered.1.2.symbol.getD []
  kinds := 1

/-- The pairs of rows behind the edges of a document. -/
def enclosedPairs : List (ScipOverlayOccurrenceRow × ScipOverlayOccurrenceRow) :=
  let occurrences := documentOccurrences store.rows overlay document
  occurrences.flatMap fun definition =>
    (occurrences.filter fun occurrence =>
      (enclosedPair store.rows overlay document generation definition occurrence).isSome).map
      fun occurrence => (definition, occurrence)

variable {store overlay document generation}
variable {definition occurrence : ScipOverlayOccurrenceRow}

variable (store overlay document) in
theorem documentOccurrences_increasing :
    (documentOccurrences store.rows overlay document).Pairwise
      fun first second => first.ordinal < second.ordinal := by
  have distinct := nodup_columns (show uniqueColumns .scipOverlayOccurrences
    (fun row => (row.overlay, row.document, row.ordinal)) ∈ storeUniqueKeys by
      simp [storeUniqueKeys]) store
  let ofDocument := fun row : ScipOverlayOccurrenceRow =>
    row.overlay == overlay && row.document == document
  have filtered : ((store.rows .scipOverlayOccurrences).filter ofDocument).Pairwise
      fun first second => first.ordinal ≠ second.ordinal := by
    refine ((List.pairwise_map.mp distinct).filter _).imp_of_mem ?_
    intro first second firstMember secondMember different same
    have firstKey := (List.mem_filter.mp firstMember).2
    have secondKey := (List.mem_filter.mp secondMember).2
    simp only [ofDocument, Bool.and_eq_true, beq_iff_eq] at firstKey secondKey
    exact different (by simp [firstKey, secondKey, same])
  have apart := ((List.perm_insertionSort
    (fun first second : ScipOverlayOccurrenceRow => first.ordinal ≤ second.ordinal) _).pairwise_iff
      Ne.symm).mpr filtered
  refine ((List.pairwise_insertionSort _ _).and apart).imp ?_
  intro first second ordered
  exact lt_of_le_of_ne ordered.1 ordered.2

theorem mem_callableFacts_iff {fact other : ArtifactFactRow}
    (member : fact ∈ documentCallables store.rows overlay document generation) :
    other ∈ callableFacts store.rows fact.artifact ↔
      other ∈ documentCallables store.rows overlay document generation := by
  simp only [documentCallables, List.mem_flatMap, List.mem_filter, Bool.and_eq_true,
    beq_iff_eq] at member ⊢
  obtain ⟨row, rowOf, file, fileOf, callable⟩ := member
  have artifact : fact.artifact = file.artifact := by
    simp only [callableFacts, List.mem_filter, Bool.and_eq_true, beq_iff_eq] at callable
    exact callable.2.1
  rw [artifact]
  constructor
  · intro callableToo
    exact ⟨row, rowOf, file, fileOf, callableToo⟩
  · rintro ⟨row', rowOf', file', fileOf', callable'⟩
    have sameRow : row' = row := eq_of_columns
      (show uniqueColumns .scipOverlayDocuments (fun row => (row.overlay, row.document)) ∈
        storeUniqueKeys by simp [storeUniqueKeys]) store rowOf'.1 rowOf.1
      (by simp [rowOf'.2, rowOf.2])
    subst sameRow
    have sameFile : file' = file := eq_of_columns
      (show uniqueColumns .generationFiles (fun row => (row.generation, row.path)) ∈
        storeUniqueKeys by simp [storeUniqueKeys]) store fileOf'.1 fileOf.1
      (by simp [fileOf'.2, fileOf.2])
    exact sameFile ▸ callable'

theorem enclosed_iff :
    ((documentCallables store.rows overlay document generation).any fun fact =>
        spanContains fact.nameSpan definition.span &&
          spanContains fact.declarationSpan occurrence.span &&
          !enclosedByNested store.rows fact occurrence) = true ↔
      ∃ fact,
        Innermost (documentCallables store.rows overlay document generation) fact
            occurrence.span ∧
          spanContains fact.nameSpan definition.span = true := by
  simp only [List.any_eq_true, Bool.and_eq_true, Bool.not_eq_true', enclosedByNested,
    List.any_eq_false, bne_iff_ne, not_and, ne_eq]
  constructor
  · rintro ⟨fact, callable, ⟨named, encloses⟩, nothing⟩
    refine ⟨fact, ⟨callable, encloses, ?_⟩, named⟩
    intro other member around inside
    by_contra different
    exact nothing other ((mem_callableFacts_iff callable).mpr member) ⟨inside, different⟩ around
  · rintro ⟨fact, innermost, named⟩
    refine ⟨fact, innermost.callable, ⟨named, innermost.encloses⟩, ?_⟩
    rintro other member ⟨inside, different⟩ around
    exact different (innermost.nothingInside other
      ((mem_callableFacts_iff innermost.callable).mp member) around inside)

theorem enclosedPair_eq_some {symbols : List UInt8 × List UInt8}
    (paired : enclosedPair store.rows overlay document generation definition occurrence =
      some symbols) :
    (definition.symbol.getD [], occurrence.symbol.getD []) = symbols := by
  simp only [enclosedPair, Option.bind_eq_bind, Option.bind_eq_some_iff, Option.pure_def,
    Option.some.injEq] at paired
  obtain ⟨source, defined, target, referred, _, _, rfl⟩ := paired
  simp [defined, referred]

theorem enclosedPair_isSome_iff
    (definitionOf : definition ∈ documentOccurrences store.rows overlay document)
    (occurrenceOf : occurrence ∈ documentOccurrences store.rows overlay document) :
    (enclosedPair store.rows overlay document generation definition occurrence).isSome ↔
      ReferencesWithin store overlay document generation definition occurrence := by
  simp only [enclosedPair, Option.isSome_iff_exists, Option.bind_eq_bind,
    Option.bind_eq_some_iff, Option.pure_def, Option.some.injEq, Option.guard_eq_some',
    Bool.and_eq_true, Bool.not_eq_true', enclosed_iff]
  constructor
  · rintro ⟨_, source, defined, target, referred, _, ⟨⟨⟨defines, refers⟩, enclosed⟩, undeclared⟩, _⟩
    refine ⟨definitionOf, occurrenceOf, ⟨defines, by simp [defined]⟩, ⟨refers, by simp [referred]⟩,
      enclosed, ?_⟩
    intro source' sourceOf target' targetOf
    rw [defined] at sourceOf
    rw [referred] at targetOf
    cases sourceOf
    cases targetOf
    exact undeclared
  · intro within
    obtain ⟨source, defined⟩ := Option.isSome_iff_exists.mp within.defines.2
    obtain ⟨target, referred⟩ := Option.isSome_iff_exists.mp within.refers.2
    exact ⟨_, source, defined, target, referred, (),
      ⟨⟨⟨within.defines.1, within.refers.1⟩, within.enclosed⟩,
        within.undeclared source defined target referred⟩, rfl⟩

theorem mem_enclosedPairs_iff :
    (definition, occurrence) ∈ enclosedPairs store overlay document generation ↔
      ReferencesWithin store overlay document generation definition occurrence := by
  simp only [enclosedPairs, List.mem_flatMap, List.mem_map, List.mem_filter, Prod.mk.injEq]
  constructor
  · rintro ⟨_, definitionOf, _, ⟨occurrenceOf, paired⟩, rfl, rfl⟩
    exact (enclosedPair_isSome_iff definitionOf occurrenceOf).mp paired
  · intro within
    exact ⟨definition, within.definitionOf, occurrence, ⟨within.occurrenceOf,
      (enclosedPair_isSome_iff within.definitionOf within.occurrenceOf).mpr within⟩, rfl, rfl⟩

theorem enclosedPairs_ordered :
    (enclosedPairs store overlay document generation).Pairwise Precedes := by
  have increasing := documentOccurrences_increasing store overlay document
  refine List.pairwise_flatMap.mpr ⟨?_, ?_⟩
  · intro definition _
    refine List.pairwise_map.mpr ((increasing.filter _).imp ?_)
    intro first second earlier
    exact .inr ⟨rfl, earlier⟩
  · refine increasing.imp ?_
    intro first second earlier
    simp only [List.mem_map]
    rintro _ ⟨_, _, rfl⟩ _ ⟨_, _, rfl⟩
    exact .inl earlier

theorem filterMap_eq_map_filter {α β : Type} {partialMap : α → Option β} {total : α → β}
    (agrees : ∀ {item image}, partialMap item = some image → total item = image)
    (items : List α) :
    items.filterMap partialMap = (items.filter fun item => (partialMap item).isSome).map total := by
  induction items with
  | nil => rfl
  | cons item rest hypothesis =>
    cases image : partialMap item with
    | none => simp [image, hypothesis]
    | some found => simp [image, hypothesis, agrees image]

theorem enclosedReferenceEdges_eq :
    enclosedReferenceEdges store.rows overlay document generation =
      (enclosedPairs store overlay document generation).zipIdx.map (edgeRow overlay document) := by
  have symbols :
      ((documentOccurrences store.rows overlay document).flatMap fun definition =>
        (documentOccurrences store.rows overlay document).filterMap fun occurrence =>
          enclosedPair store.rows overlay document generation definition occurrence) =
      (enclosedPairs store overlay document generation).map fun pair =>
        (pair.1.symbol.getD [], pair.2.symbol.getD []) := by
    simp only [enclosedPairs, List.map_flatMap, List.map_map]
    congr 1
    funext definition
    exact filterMap_eq_map_filter enclosedPair_eq_some _
  simp only [enclosedReferenceEdges, symbols, List.zipIdx_map, List.map_map]
  rfl

end Pairs

section Frames

def AgreesOn (tables : List StoreTable) (before after : Store) : Prop :=
  ∀ table ∈ tables, after.rows table = before.rows table

variable {tables : List StoreTable} {before after : Store}

instance : Std.Refl (AgreesOn tables) where
  refl _ _ _ := rfl

instance : IsTrans Store (AgreesOn tables) where
  trans _ _ _ first second table listed := (second table listed).trans (first table listed)

variable {table : StoreTable} {digest : Bytes32}

theorem agreesOn_of_setTable {contents : List (StoreRow table)}
    (changed : after.rows = setTable before.rows table contents) (unlisted : table ∉ tables) :
    AgreesOn tables before after := by
  intro other listed
  have different : other ≠ table := fun same => unlisted (same ▸ listed)
  rw [changed, setTable_of_ne _ _ different]

theorem insertRow_agreesOn {error : SqliteStoreError} {row : StoreRow table}
    (unlisted : table ∉ tables) : Keeps (AgreesOn tables) (insertRow error table row) :=
  fun _ _ _ execution =>
    agreesOn_of_setTable (Database.insert_eq_some_iff.mp (succeeds_attempt.mp execution)).2 unlisted

theorem stageOverlayDocuments_agreesOn {prepared : PreparedScipOverlay}
    (documents : .scipOverlayDocuments ∉ tables) (occurrences : .scipOverlayOccurrences ∉ tables)
    (relationships : .scipOverlayRelationships ∉ tables) :
    Keeps (AgreesOn tables) (stageOverlayDocuments prepared) := by
  unfold stageOverlayDocuments stageDocumentOccurrences stageDocumentRelationships
  refine .forM fun _ _ => .bind (insertRow_agreesOn documents) fun _ => .bind ?_ fun _ => ?_
  · exact .forM fun _ _ => insertRow_agreesOn occurrences
  · exact .forM fun _ _ => insertRow_agreesOn relationships

theorem activateOverlay_agreesOn {connectedWorkspace : Bytes32} {view : Nat}
    {sourceSlot : Bytes32} (unlisted : .activeScipOverlays ∉ tables) :
    Keeps (AgreesOn tables) (activateOverlay connectedWorkspace view sourceSlot digest) := by
  intro before value after execution
  have attempted := succeeds_attempt.mp execution
  dsimp only at attempted
  split at attempted
  · exact agreesOn_of_setTable (Database.update_eq_some_iff.mp attempted).2 unlisted
  · exact agreesOn_of_setTable (Database.insert_eq_some_iff.mp attempted).2 unlisted

theorem completeOverlay_agreesOn (unlisted : .scipOverlayReceipts ∉ tables) :
    Keeps (AgreesOn tables) (completeOverlay digest) := by
  intro before value after execution
  have updated := (updateOneRow_succeeds execution).1
  exact agreesOn_of_setTable (Database.update_eq_some_iff.mp updated).2 unlisted

def edgeSources : List StoreTable :=
  [.scipOverlayDocuments, .generationFiles, .artifactFacts, .scipOverlayOccurrences,
    .scipOverlayRelationships]

theorem enclosedReferenceEdges_congr (agrees : AgreesOn edgeSources before after) :
    enclosedReferenceEdges after.rows = enclosedReferenceEdges before.rows := by
  have facts : callableFacts after.rows = callableFacts before.rows := by
    funext artifact
    simp only [callableFacts, agrees .artifactFacts (by simp [edgeSources])]
  have callables : documentCallables after.rows = documentCallables before.rows := by
    funext overlay document generation
    simp only [documentCallables, facts, agrees .scipOverlayDocuments (by simp [edgeSources]),
      agrees .generationFiles (by simp [edgeSources])]
  have nested : enclosedByNested after.rows = enclosedByNested before.rows := by
    funext fact occurrence
    simp only [enclosedByNested, facts]
  have declared : relationshipDeclared after.rows = relationshipDeclared before.rows := by
    funext overlay document source target
    simp only [relationshipDeclared, agrees .scipOverlayRelationships (by simp [edgeSources])]
  have occurrences : documentOccurrences after.rows = documentOccurrences before.rows := by
    funext overlay document
    simp only [documentOccurrences, agrees .scipOverlayOccurrences (by simp [edgeSources])]
  funext overlay document generation
  unfold enclosedReferenceEdges enclosedPair
  rw [callables, nested, declared, occurrences]

end Frames

section Filling

def edgeKey (edge : ScipRelationshipRow) : Bytes32 × Nat × Nat :=
  (edge.overlay, edge.document, edge.ordinal)

/-- The edges whose key is not stored. -/
def missingEdges (stored edges : List ScipRelationshipRow) : List ScipRelationshipRow :=
  edges.filter fun edge => edgeKey edge ∉ stored.map edgeKey

/-- The missing edges are appended and nothing else changes. -/
def FillsEdges (edges : List ScipRelationshipRow) (before after : Store) : Prop :=
  after.rows = setTable before.rows .scipEnclosedReferenceEdges
      (before.rows .scipEnclosedReferenceEdges ++
        missingEdges (before.rows .scipEnclosedReferenceEdges) edges)

/-- All derived edges of the first documents of an overlay. -/
def derivedEdges (rows : StoreRows) (digest : Bytes32) (generation documentCount : Nat) :
    List ScipRelationshipRow :=
  (List.range documentCount).flatMap fun document =>
    enclosedReferenceEdges rows digest document generation

variable {before middle after : Store} {first second edges : List ScipRelationshipRow}

theorem FillsEdges.nil (store : Store) : FillsEdges [] store store := by
  simp [FillsEdges, missingEdges, setTable]

theorem missingEdges_append (distinct : ((first ++ second).map edgeKey).Nodup)
    (stored : List ScipRelationshipRow) :
    missingEdges (stored ++ missingEdges stored first) second = missingEdges stored second := by
  refine List.filter_congr fun edge member => ?_
  have apart : edgeKey edge ∉ first.map edgeKey := by
    rw [List.map_append] at distinct
    intro shared
    exact List.disjoint_of_nodup_append distinct shared (List.mem_map_of_mem member)
  have unadded : edgeKey edge ∉ (missingEdges stored first).map edgeKey := by
    intro added
    obtain ⟨other, otherMember, same⟩ := List.mem_map.mp added
    exact apart (List.mem_map.mpr ⟨other, List.mem_of_mem_filter otherMember, same⟩)
  simp only [List.map_append, List.mem_append, unadded, or_false]

theorem FillsEdges.append (filled : FillsEdges first before middle)
    (rest : FillsEdges second middle after) (distinct : ((first ++ second).map edgeKey).Nodup) :
    FillsEdges (first ++ second) before after := by
  unfold FillsEdges at *
  have stored : middle.rows .scipEnclosedReferenceEdges =
      before.rows .scipEnclosedReferenceEdges ++
        missingEdges (before.rows .scipEnclosedReferenceEdges) first := by
    rw [filled, setTable_same]
  rw [rest, stored, missingEdges_append distinct, filled, List.append_assoc]
  simp only [setTable, Function.update_idem, missingEdges, List.filter_append]

variable {error : SqliteStoreError} {edge : ScipRelationshipRow}

theorem insertUnlessPresent_fills
    (execution : Succeeds (insertUnlessPresent error .scipEnclosedReferenceEdges edge fun row =>
      row.overlay == edge.overlay && row.document == edge.document &&
        row.ordinal == edge.ordinal) before () after) :
    FillsEdges [edge] before after := by
  have attempted := succeeds_attempt.mp execution
  have present_iff :
      ((before.rows .scipEnclosedReferenceEdges).any fun row =>
        row.overlay == edge.overlay && row.document == edge.document &&
          row.ordinal == edge.ordinal) = true ↔
      edgeKey edge ∈ (before.rows .scipEnclosedReferenceEdges).map edgeKey := by
    simp [edgeKey, and_assoc]
  split at attempted
  next stored =>
    split at attempted
    · cases attempted
      have present := present_iff.mp stored
      simp only [FillsEdges, missingEdges, List.filter_cons, present, not_true_eq_false,
        decide_false, Bool.false_eq_true, if_false, List.filter_nil, List.append_nil, setTable,
        Function.update_eq_self]
    · cases attempted
  next missing =>
    rw [present_iff] at missing
    simp only [FillsEdges, (Database.insert_eq_some_iff.mp attempted).2, missingEdges,
      List.filter_cons, missing, not_false_eq_true, decide_true, if_true, List.filter_nil]

theorem insertEdges_fills (distinct : (edges.map edgeKey).Nodup)
    (execution : Succeeds (edges.forM fun edge =>
      insertUnlessPresent error .scipEnclosedReferenceEdges edge fun row =>
        row.overlay == edge.overlay && row.document == edge.document &&
          row.ordinal == edge.ordinal) before () after) :
    FillsEdges edges before after := by
  induction edges generalizing before with
  | nil =>
    rw [← (succeeds_pure.mp execution).2]
    exact .nil before
  | cons edge rest hypothesis =>
    obtain ⟨_, middle, inserted, others⟩ := succeeds_bind.mp execution
    exact .append (insertUnlessPresent_fills inserted)
      (hypothesis (List.nodup_cons.mp distinct).2 others) distinct

variable {digest : Bytes32} {generation : Nat}

theorem mem_edges_key {store : Store} {document : Nat}
    (member : edge ∈ enclosedReferenceEdges store.rows digest document generation) :
    edge.overlay = digest ∧ edge.document = document := by
  rw [enclosedReferenceEdges_eq] at member
  obtain ⟨_, _, rfl⟩ := List.mem_map.mp member
  exact ⟨rfl, rfl⟩

variable (digest generation) in
theorem edgeKeys_nodup (store : Store) {documents : List Nat} (distinct : documents.Nodup) :
    ((documents.flatMap fun document =>
      enclosedReferenceEdges store.rows digest document generation).map edgeKey).Nodup := by
  refine List.pairwise_map.mpr (List.pairwise_flatMap.mpr ⟨?_, ?_⟩)
  · intro document _
    rw [enclosedReferenceEdges_eq]
    have numbered :
        ((enclosedPairs store digest document generation).zipIdx.map Prod.snd).Nodup := by
      rw [List.zipIdx_map_snd]
      exact List.nodup_range'
    refine List.pairwise_map.mpr ((List.pairwise_map.mp numbered).imp ?_)
    intro earlier later different same
    exact different (congrArg (fun key => key.2.2) same)
  · refine distinct.imp ?_
    intro document other different edge member edge' member' same
    have sameDocument : edge.document = edge'.document := congrArg (fun key => key.2.1) same
    exact different ((mem_edges_key member).2.symm.trans
      (sameDocument.trans (mem_edges_key member').2))

theorem stageEnclosedReferenceEdges_fills {scope : OverlayScope} {documentCount : Nat}
    (execution : Succeeds (stageEnclosedReferenceEdges digest scope documentCount) before ()
      after) :
    FillsEdges (derivedEdges before.rows digest scope.generation documentCount) before after := by
  unfold stageEnclosedReferenceEdges at execution
  unfold derivedEdges
  have distinct : (List.range documentCount).Nodup := List.nodup_range
  generalize List.range documentCount = documents at execution distinct ⊢
  -- Every document's statement reads the store its predecessors left.
  induction documents generalizing before with
  | nil =>
    rw [← (succeeds_pure.mp execution).2]
    exact .nil before
  | cons document rest hypothesis =>
    obtain ⟨_, middle, staged, others⟩ := succeeds_bind.mp execution
    simp only [succeeds_bind, succeeds_get] at staged
    obtain ⟨_, _, ⟨rfl, rfl⟩, inserted⟩ := staged
    have keys := edgeKeys_nodup digest scope.generation before distinct
    have ofFirst := insertEdges_fills ((List.map_append ▸ keys).of_append_left) inserted
    have ofRest := hypothesis others (List.nodup_cons.mp distinct).2
    rw [enclosedReferenceEdges_congr (agreesOn_of_setTable ofFirst (by decide))] at ofRest
    exact ofFirst.append ofRest keys

end Filling

section Staging

variable {connectedWorkspace : Bytes32} {view : Nat} {sourceSlot : Bytes32}
  {prepared : PreparedScipOverlay} {requireActiveView : Bool} {digest : Bytes32}
  {before after : Store}

/-- An overlay whose receipt is complete. -/
def OverlayComplete (rows : StoreRows) (digest : Bytes32) : Prop :=
  ∃ receipt ∈ rows .scipOverlayReceipts,
    receipt.overlay = digest ∧ receipt.lifecycle = .complete

/-- The edges of an overlay are filled between two parts of its staging.  The
first leaves their table, and does nothing for a complete overlay; the second
also leaves the tables they are derived from. -/
structure StagesEdges (prepared : PreparedScipOverlay)
    (before started filled after : Store) : Prop where
  starts : AgreesOn [.scipEnclosedReferenceEdges] before started
  replays : OverlayComplete before.rows prepared.digest → started = before
  fills : FillsEdges
    (derivedEdges started.rows prepared.digest prepared.identity.generation
      prepared.documents.length) started filled
  finishes : AgreesOn (.scipEnclosedReferenceEdges :: edgeSources) filled after
  completes : OverlayComplete after.rows prepared.digest

theorem overlayIsComplete_true
    (execution : Succeeds (overlayIsComplete before.rows digest) before true after) :
    OverlayComplete before.rows digest := by
  unfold overlayIsComplete at execution
  split at execution
  · cases (succeeds_pure.mp execution).1
  next receipt found =>
    simp only [succeeds_bind, succeeds_require] at execution
    obtain ⟨_, _, ⟨complete, _⟩, _⟩ := execution
    exact ⟨receipt, List.mem_of_find?_eq_some found, by simpa using List.find?_some found,
      beq_iff_eq.mp complete⟩

theorem overlayIsComplete_false
    (execution : Succeeds (overlayIsComplete before.rows digest) before false after) :
    ¬OverlayComplete before.rows digest := by
  rintro ⟨receipt, member, ofDigest, _⟩
  unfold overlayIsComplete at execution
  split at execution
  next absent => exact List.find?_eq_none.mp absent receipt member (beq_iff_eq.mpr ofDigest)
  next =>
    simp only [succeeds_bind, succeeds_pure] at execution
    obtain ⟨_, _, _, impossible, _⟩ := execution
    cases impossible

theorem completeOverlay_completes
    (execution : Succeeds (completeOverlay digest) before () after) :
    OverlayComplete after.rows digest := by
  obtain ⟨updated, one⟩ := updateOneRow_succeeds execution
  obtain ⟨row, member, selected⟩ := List.countP_pos_iff.mp (one ▸ Nat.one_pos)
  have ofDigest : row.overlay = digest := by
    simp only [Bool.and_eq_true, beq_iff_eq] at selected
    exact selected.1
  refine ⟨{ row with lifecycle := .complete }, ?_, ofDigest, rfl⟩
  rw [(Database.update_eq_some_iff.mp updated).2, setTable_same]
  exact List.mem_map.mpr ⟨row, member, if_pos selected⟩

theorem OverlayComplete.agrees (complete : OverlayComplete before.rows digest)
    (agrees : AgreesOn [.scipOverlayReceipts] before after) :
    OverlayComplete after.rows digest := by
  rwa [OverlayComplete, agrees _ List.mem_cons_self]

theorem stageScipOverlay_stagesEdges
    (execution :
      Succeeds (stageScipOverlay connectedWorkspace view sourceSlot prepared requireActiveView)
        before digest after) :
    ∃ started filled, StagesEdges prepared before started filled after := by
  unfold stageScipOverlay at execution
  simp only [succeeds_bind, succeeds_get, succeeds_present, succeeds_require] at execution
  obtain ⟨_, _, ⟨rfl, rfl⟩, _, _, ⟨_, rfl⟩, scope, _, ⟨_, rfl⟩, _, _, ⟨identified, rfl⟩,
    complete, _, checked, rest⟩ := execution
  have generation : scope.generation = prepared.identity.generation := by
    rw [beq_iff_eq.mp identified]
    rfl
  have unchanged := overlayIsComplete_succeeds checked
  subst unchanged
  split at rest
  next replayed =>
    subst replayed
    simp only [succeeds_bind, succeeds_pure] at rest
    obtain ⟨_, filled, edges, _, _, activates, _, rfl⟩ := rest
    have fills := stageEnclosedReferenceEdges_fills edges
    rw [generation] at fills
    refine ⟨_, filled, refl_of (AgreesOn _) _, fun _ => rfl, fills,
      activateOverlay_agreesOn (by decide) _ _ _ activates, ?_⟩
    exact ((overlayIsComplete_true checked).agrees (agreesOn_of_setTable fills (by decide))).agrees
      (activateOverlay_agreesOn (by decide) _ _ _ activates)
  next staged =>
    rw [Bool.not_eq_true] at staged
    subst staged
    simp only [succeeds_bind, succeeds_pure] at rest
    obtain ⟨_, _, receipt, _, started, documents, _, filled, edges, _, _, completes, _, _,
      activates, _, rfl⟩ := rest
    have fills := stageEnclosedReferenceEdges_fills edges
    rw [generation] at fills
    refine ⟨started, filled, ?_, fun replayed => absurd replayed (overlayIsComplete_false checked),
      fills, ?_, ?_⟩
    · exact trans_of (AgreesOn _) (insertRow_agreesOn (by decide) _ _ _ receipt)
        (stageOverlayDocuments_agreesOn (by decide) (by decide) (by decide) _ _ _ documents)
    · exact trans_of (AgreesOn _) (completeOverlay_agreesOn (by decide) _ _ _ completes)
        (activateOverlay_agreesOn (by decide) _ _ _ activates)
    · exact (completeOverlay_completes completes).agrees
        (activateOverlay_agreesOn (by decide) _ _ _ activates)

namespace StagesEdges

variable {started filled : Store}

theorem derived (stages : StagesEdges prepared before started filled after) :
    derivedEdges after.rows = derivedEdges started.rows := by
  have sources : AgreesOn edgeSources started after :=
    trans_of (AgreesOn edgeSources) (agreesOn_of_setTable stages.fills (by decide))
      fun table listed => stages.finishes table (List.mem_cons_of_mem _ listed)
  funext digest generation count
  simp only [derivedEdges, enclosedReferenceEdges_congr sources]

theorem edges (stages : StagesEdges prepared before started filled after) :
    after.rows .scipEnclosedReferenceEdges =
      before.rows .scipEnclosedReferenceEdges ++
        missingEdges (before.rows .scipEnclosedReferenceEdges)
          (derivedEdges after.rows prepared.digest prepared.identity.generation
            prepared.documents.length) := by
  rw [stages.derived, stages.finishes _ List.mem_cons_self, stages.fills, setTable_same,
    stages.starts _ List.mem_cons_self]

end StagesEdges

variable {stored edges : List ScipRelationshipRow}

theorem missingEdges_of_absent (absent : ∀ row ∈ stored, row.overlay ≠ digest)
    (derived : ∀ edge ∈ edges, edge.overlay = digest) : missingEdges stored edges = edges := by
  refine List.filter_eq_self.mpr fun edge member => ?_
  rw [decide_eq_true_eq, List.mem_map]
  rintro ⟨row, rowMember, same⟩
  exact absent row rowMember ((congrArg Prod.fst same).trans (derived edge member))

theorem missingEdges_of_subset (present : edges ⊆ stored) : missingEdges stored edges = [] := by
  refine List.filter_eq_nil_iff.mpr fun edge member => ?_
  rw [decide_eq_true_eq, not_not]
  exact List.mem_map_of_mem (present member)

theorem mem_derivedEdges_overlay {store : Store} {generation documentCount : Nat}
    {edge : ScipRelationshipRow}
    (member : edge ∈ derivedEdges store.rows digest generation documentCount) :
    edge.overlay = digest := by
  obtain ⟨document, _, ofDocument⟩ := List.mem_flatMap.mp member
  exact (mem_edges_key ofDocument).1

end Staging

/-- The edges of a document are its references within innermost callables, each
once and numbered in the order of the definitions and the references; staging an
overlay stores exactly them, and staging it again stores nothing. -/
theorem enclosed_references_exact :
    (∀ (store : Store) (overlay : Bytes32) (document generation : Nat),
      ∃ pairs : List (ScipOverlayOccurrenceRow × ScipOverlayOccurrenceRow),
        enclosedReferenceEdges store.rows overlay document generation =
            pairs.zipIdx.map (edgeRow overlay document) ∧
          pairs.Pairwise Precedes ∧
          ∀ definition occurrence,
            (definition, occurrence) ∈ pairs ↔
              ReferencesWithin store overlay document generation definition occurrence) ∧
    (∀ (callables : List ArtifactFactRow) (fact other : ArtifactFactRow) (occurrence : ByteSpan),
      NestedOrDisjoint callables → Innermost callables fact occurrence →
        occurrence.isEmpty = false → other ∈ callables →
          spanContains other.declarationSpan occurrence = true →
            spanContains other.declarationSpan fact.declarationSpan = true) ∧
    ∀ (connectedWorkspace : Bytes32) (view : Nat) (sourceSlot : Bytes32)
      (prepared : PreparedScipOverlay) (requireActiveView : Bool) (digest : Bytes32)
      (before after : Store),
      Succeeds (stageScipOverlay connectedWorkspace view sourceSlot prepared requireActiveView)
        before digest after →
      (∀ row ∈ before.rows .scipEnclosedReferenceEdges, row.overlay ≠ prepared.digest) →
        after.rows .scipEnclosedReferenceEdges =
            before.rows .scipEnclosedReferenceEdges ++
              derivedEdges after.rows prepared.digest prepared.identity.generation
                prepared.documents.length ∧
          OverlayComplete after.rows prepared.digest ∧
          ∀ (connectedWorkspace' : Bytes32) (view' : Nat) (sourceSlot' : Bytes32)
            (requireActiveView' : Bool) (digest' : Bytes32) (later again : Store),
            OverlayComplete later.rows prepared.digest →
            after.rows .scipEnclosedReferenceEdges ⊆ later.rows .scipEnclosedReferenceEdges →
            derivedEdges later.rows prepared.digest prepared.identity.generation
                prepared.documents.length =
              derivedEdges after.rows prepared.digest prepared.identity.generation
                prepared.documents.length →
            Succeeds (stageScipOverlay connectedWorkspace' view' sourceSlot' prepared
              requireActiveView') later digest' again →
              again.rows .scipEnclosedReferenceEdges =
                later.rows .scipEnclosedReferenceEdges := by
  refine ⟨?_, ?_, ?_⟩
  · intro store overlay document generation
    exact ⟨enclosedPairs store overlay document generation, enclosedReferenceEdges_eq,
      enclosedPairs_ordered, fun definition occurrence => mem_enclosedPairs_iff⟩
  · intro callables fact other occurrence nested innermost nonempty member around
    exact innermost.within nested nonempty member around
  · intro connectedWorkspace view sourceSlot prepared requireActiveView digest before after
      execution absent
    obtain ⟨started, filled, stages⟩ := stageScipOverlay_stagesEdges execution
    have stored := stages.edges
    rw [missingEdges_of_absent absent fun edge => mem_derivedEdges_overlay] at stored
    refine ⟨stored, stages.completes, ?_⟩
    intro connectedWorkspace' view' sourceSlot' requireActiveView' digest' later again complete
      kept same executionAgain
    obtain ⟨startedAgain, filledAgain, stagesAgain⟩ := stageScipOverlay_stagesEdges executionAgain
    have storedAgain := stagesAgain.edges
    rw [stagesAgain.derived, stagesAgain.replays complete, same, missingEdges_of_subset,
      List.append_nil] at storedAgain
    · exact storedAgain
    · intro edge derived
      exact kept (stored ▸ List.mem_append_right _ derived)

namespace Sample

def span (start length : Nat) : ByteSpan := ⟨start, start + length, Nat.le_add_right _ _⟩

/-- An active generation with one file, where a function is declared in another. -/
def nestedFileOperations : List WriterOperation :=
  [.ensureWorkspace 1 0,
    .advanceSourceEpoch 1 0 1,
    .insertContent .sourceSnapshots
      { snapshot := 51, lifecycle := .staging, manifest := 51, fileCount := 1
        totalSourceBytes := 20 },
    .insertContent .sourceManifestEntries { snapshot := 51, ordinal := 0, path },
    .completeSnapshot 51,
    .insertContent .analysisArtifacts
      { artifact := 61, lifecycle := .staging, sourceContent := 41, factCount := 2
        payload := none
        language := .go },
    .insertContent .artifactFacts
      { artifact := 61, ordinal := 0, kind := .function, nameSpan := span 1 1
        declarationSpan := span 0 10 },
    .insertContent .artifactFacts
      { artifact := 61, ordinal := 1, kind := .function, nameSpan := span 4 1
        declarationSpan := span 3 5 },
    .completeArtifact 61,
    .stageGeneration 1 1 51,
    .transitionGeneration 1 .extract,
    .insertContent .generationFiles
      { generation := 1, ordinal := 0, path, content := 41, artifact := 61 },
    .transitionGeneration 1 .resolve,
    .transitionGeneration 1 .validate,
    .transitionGeneration 1 (.ready ⟨1, 0, 0, 0⟩),
    .activate 1 1]

/-- Two definitions, a reference within each and one that is also declared. -/
def nestedOverlay : PreparedScipOverlay where
  identity :=
    { connectedWorkspace := 1, workspaceView := 1, sourceSlot := 1, sourceEpoch := 1
      generation := 1
      sourceSnapshot := 51
      sourceManifest := 51 }
  digest := 99
  documents :=
    [{ path
       content := 41
       occurrences :=
        [⟨some [1], 1, span 1 1⟩, ⟨some [2], 1, span 4 1⟩, ⟨some [3], 0, span 6 1⟩,
          ⟨some [4], 0, span 7 1⟩, ⟨some [3], 0, span 9 1⟩]
       relationships := [⟨[2], [4], ⟨true, false, false, false⟩⟩] }]
  bounded := by decide
  distinctPaths := by decide

def nestedEdges : List ScipRelationshipRow :=
  [{ overlay := 99, document := 0, ordinal := 0, sourceSymbol := [1], targetSymbol := [3]
     kinds := 1 },
    { overlay := 99, document := 0, ordinal := 1, sourceSymbol := [2], targetSymbol := [3]
      kinds := 1 }]

theorem nestedEdges_computed :
    ((runOperations digests nestedFileOperations emptyStore).bind fun indexed =>
      ((stageScipOverlay 1 1 1 nestedOverlay true).run indexed.2).toOption.bind fun staged =>
        ((stageScipOverlay 1 1 1 nestedOverlay true).run staged.2).toOption.map fun again =>
          (indexed.2.rows .scipEnclosedReferenceEdges, staged.1,
            staged.2.rows .scipEnclosedReferenceEdges, again.1)) =
      some ([], 99, nestedEdges, 99) := by
  decide +kernel

end Sample

/-- The references of both functions are stored, and staged a second time for nothing. -/
theorem enclosed_references_of_nested_functions : ∃ before after again : Store,
      Succeeds (stageScipOverlay 1 1 1 Sample.nestedOverlay true) before 99 after ∧
        after.rows .scipEnclosedReferenceEdges = Sample.nestedEdges ∧
        after.rows .scipEnclosedReferenceEdges = derivedEdges after.rows 99 1 1 ∧
        Succeeds (stageScipOverlay 1 1 1 Sample.nestedOverlay true) after 99 again ∧
        again.rows .scipEnclosedReferenceEdges = Sample.nestedEdges := by
  obtain ⟨⟨_, before⟩, _, rest⟩ := Option.bind_eq_some_iff.mp Sample.nestedEdges_computed
  obtain ⟨⟨digest, after⟩, staged, rest⟩ := Option.bind_eq_some_iff.mp rest
  obtain ⟨⟨digest', again⟩, replayed, observed⟩ := Option.map_eq_some_iff.mp rest
  simp only [Prod.mk.injEq] at observed
  obtain ⟨unfilled, rfl, edges, rfl⟩ := observed
  have staging := except_toOption_eq_some_iff.mp staged
  have replay := except_toOption_eq_some_iff.mp replayed
  obtain ⟨stored, complete, unrepeated⟩ := enclosed_references_exact.2.2 1 1 1 Sample.nestedOverlay
    true 99 before after staging (by simp [unfilled])
  rw [unfilled] at stored
  refine ⟨before, after, again, staging, edges, stored, replay, ?_⟩
  rw [← edges]
  exact unrepeated 1 1 1 true 99 after again complete (List.Subset.refl _) rfl replay

end RepoWitness
