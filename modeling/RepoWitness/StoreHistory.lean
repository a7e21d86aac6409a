import RepoWitness.RetentionAcceptance

namespace RepoWitness

open Transaction

/-!
# What the store keeps through its runs

A snapshot, an artifact or an overlay that is complete and a view that is
published are sealed: no call adds, changes or drops a row of their content,
until a collection takes all of it.  Engineering memory is only added to.  A
generation keeps what identifies it, moves along its lifecycle, gets its counts
when it becomes ready and is collected from the last state alone.  A collection
that is asked for again is not done again.
-/

/-! ## Sealed content -/

/-- What the rows of some content belong to. -/
inductive ContentOwner where
  | snapshot (digest : Bytes32)
  | artifact (digest : Bytes32)
  | overlay (digest : Bytes32)
  | view (number : Nat)

namespace ContentOwner

/-- No trigger guards the insertion of syntax sites, so they are no such content. -/
def Owns : ContentOwner → (table : StoreTable) → StoreRow table → Prop
  | .snapshot digest, .sourceManifestEntries, row => row.snapshot = digest
  | .artifact digest, .artifactFacts, row => row.artifact = digest
  | .artifact digest, .artifactFactCorrespondence, row => row.artifact = digest
  | .artifact digest, .rustGraphArtifacts, row => row.artifact = digest
  | .artifact digest, .rustGraphSites, row => row.artifact = digest
  | .overlay digest, .scipOverlayDocuments, row => row.overlay = digest
  | .overlay digest, .scipOverlayOccurrences, row => row.overlay = digest
  | .overlay digest, .scipOverlayRelationships, row => row.overlay = digest
  | .view number, .workspaceViewMembers, row => row.view = number
  | _, _, _ => False

/-- The owner's own row, complete or published. -/
def SealedBy : ContentOwner → (table : StoreTable) → StoreRow table → Prop
  | .snapshot digest, .sourceSnapshots, row => row.snapshot = digest ∧ row.lifecycle = .complete
  | .artifact digest, .analysisArtifacts, row => row.artifact = digest ∧ row.lifecycle = .complete
  | .overlay digest, .scipOverlayReceipts, row => row.overlay = digest ∧ row.lifecycle = .complete
  | .view number, .workspaceViews, row => row.view = number ∧ row.lifecycle = .published
  | _, _, _ => False

variable (owner : ContentOwner)

def Sealed (rows : StoreRows) : Prop := ∃ table, ∃ row ∈ rows table, owner.SealedBy table row

/-- The owner is sealed with the content it has in the given rows. -/
structure SealedAs (rows : StoreRows) (store : Store) : Prop where
  isSealed : owner.Sealed store.rows
  content : ∀ table row, owner.Owns table row → (row ∈ store.rows table ↔ row ∈ rows table)

/-- Neither the owner nor any of its content is left. -/
structure Gone (rows : StoreRows) : Prop where
  unsealed : ¬owner.Sealed rows
  content : ∀ table row, owner.Owns table row → row ∉ rows table

def isMarked (marks : RetentionMarks) : ContentOwner → Bool
  | .snapshot digest => marks.snapshots.contains digest
  | .artifact digest => marks.artifacts.contains digest
  | .overlay digest => marks.overlays.contains digest
  | .view number => marks.views.contains number

/-- Engineering memory cites the owner. -/
def isCited (rows : StoreRows) : ContentOwner → Bool
  | .snapshot digest => snapshotCited rows digest
  | .artifact digest => artifactCited rows digest
  | _ => false

variable {owner} {scope : WriterScope} {before after : Store} {table : StoreTable}
  {row : StoreRow table} {rows : StoreRows}

/-- The owner's row and its content are marked together. -/
theorem marked_of_owner (belongs : owner.SealedBy table row ∨ owner.Owns table row) :
    table ≠ .activeWorkspaceViews ∧ table ≠ .retentionCollectionAudit ∧
      ∀ marks, RepoWitness.isMarked marks table row = owner.isMarked marks := by
  rcases belongs with sealedBy | owns
  · unfold SealedBy at sealedBy
    split at sealedBy
    all_goals first
      | exact sealedBy.elim
      | exact sealedBy.1 ▸ ⟨by decide, by decide, fun _ => rfl⟩
  · unfold Owns at owns
    split at owns
    all_goals first
      | exact owns.elim
      | exact owns ▸ ⟨by decide, by decide, fun _ => rfl⟩

/-- A statement keeps an owner sealed. -/
theorem Sealed.of_allows (isSealed : owner.Sealed before.rows)
    (allowed : scope.rules.Allows before.rows after.rows) :
    owner.Sealed after.rows := by
  obtain ⟨table, row, present, sealedBy⟩ := isSealed
  rcases allowed.fate table row present with
    kept | ⟨new, newMember, guarded, -⟩ | ⟨guarded, -⟩
  · exact ⟨table, row, kept, sealedBy⟩
  · refine ⟨table, new, newMember, ?_⟩
    unfold SealedBy at sealedBy ⊢
    split at sealedBy
    all_goals
      simp only [storeUpdateGuard, snapshotUpdateGuard, artifactUpdateGuard, overlayUpdateGuard,
        viewUpdateGuard, Bool.and_eq_true, Bool.or_eq_true, beq_iff_eq] at guarded
      grind
  · unfold SealedBy at sealedBy
    split at sealedBy
    all_goals simp_all [storeDeleteGuard, RetentionMarks.none]

/-- The triggers keep rows out of, and rows in, the content of a sealed owner.
That of views also asks for the workspace of the view. -/
theorem Owns.guarded (owns : owner.Owns table row) (isSealed : owner.Sealed rows) :
    (∃ number, owner = .view number) ∨
      storeInsertGuard rows table row = false ∧ storeDeleteGuard .none rows table row = false := by
  obtain ⟨parent, sealing, present, sealedBy⟩ := isSealed
  unfold SealedBy at sealedBy
  unfold Owns at owns
  split at sealedBy <;> split at owns
  all_goals simp_all [storeInsertGuard, storeDeleteGuard, snapshotStates, artifactStaging,
    artifactStates, artifactDeleteGuard, overlayDeleteGuard, overlayStaging,
    overlayDocumentInsertGuard, eachOf, RetentionMarks.none]
  all_goals grind

theorem Owns.unchanged (owns : owner.Owns table row) (old new : StoreRow table) :
    storeUpdateGuard rows table old new = false := by
  unfold Owns at owns
  split at owns
  all_goals first
    | exact owns.elim
    | rfl

/-- A statement leaves the content of a sealed owner as it is. -/
theorem Owns.mem_iff_of_allows (owns : owner.Owns table row) (isSealed : owner.Sealed before.rows)
    (allowed : scope.rules.Allows before.rows after.rows) :
    row ∈ after.rows table ↔ row ∈ before.rows table := by
  rcases owns.guarded isSealed with ⟨number, rfl⟩ | ⟨uninserted, undeleted⟩
  · obtain ⟨parent, view, present, sealedBy⟩ := isSealed
    cases parent <;> try exact sealedBy.elim
    cases table <;> try exact owns.elim
    have named := sealedBy.1.trans owns.symm
    exact ⟨fun member => publishedMember_origin allowed member present named sealedBy.2,
      fun member => publishedMember_kept allowed member present named sealedBy.2⟩
  · constructor
    · intro member
      rcases allowed.origin table row member with kept | ⟨guarded, -⟩ | ⟨old, _, guarded, -⟩
      · exact kept
      · cases uninserted.symm.trans guarded
      · cases (owns.unchanged old row).symm.trans guarded
    · intro member
      rcases allowed.fate table row member with kept | ⟨new, _, guarded, -⟩ | ⟨guarded, -⟩
      · exact kept
      · cases (owns.unchanged row new).symm.trans guarded
      · cases undeleted.symm.trans guarded

theorem isMarked_of_isCited {generations : List Nat} (cited : owner.isCited rows = true) :
    owner.isMarked (retentionMarks rows generations) = false := by
  rw [← Bool.not_eq_true]
  intro marked
  cases owner with
  | snapshot digest =>
    have unreferenced := snapshotUnreferenced_of_marked marked
    simp_all [snapshotUnreferenced, isCited]
  | artifact digest =>
    have unreferenced := artifactUnreferenced_of_marked marked
    simp_all [artifactUnreferenced, isCited]
  | overlay => cases cited
  | view => cases cited

/-- A collection takes an owner with all of its content or leaves all of it. -/
theorem SealedAs.of_collected {generations : List Nat} (sealedAs : owner.SealedAs rows before)
    (collected : Collected before after generations) :
    owner.SealedAs rows after ∨ owner.isCited before.rows = false ∧ owner.Gone after.rows := by
  have kept : ∀ table row, owner.SealedBy table row ∨ owner.Owns table row →
      (row ∈ after.rows table ↔ row ∈ before.rows table ∧
        owner.isMarked (retentionMarks before.rows generations) = false) := by
    intro table row belongs
    obtain ⟨_, different, marked⟩ := marked_of_owner belongs
    rw [collected.mem_iff different, marked]
  cases marked : owner.isMarked (retentionMarks before.rows generations) with
  | false =>
    obtain ⟨table, row, present, sealedBy⟩ := sealedAs.isSealed
    refine .inl ⟨⟨table, row, (kept _ _ (.inl sealedBy)).mpr ⟨present, marked⟩, sealedBy⟩, ?_⟩
    intro table row owns
    rw [kept table row (.inr owns), ← sealedAs.content table row owns]
    exact and_iff_left marked
  | true =>
    refine .inr ⟨?_, ?_, fun table row owns member => ?_⟩
    · rw [← Bool.not_eq_true]
      intro cited
      cases marked.symm.trans (isMarked_of_isCited cited)
    · rintro ⟨table, row, present, sealedBy⟩
      cases marked.symm.trans ((kept _ _ (.inl sealedBy)).mp present).2
    · cases marked.symm.trans ((kept _ _ (.inr owns)).mp member).2

theorem SealedAs.of_effect {digests : RetentionDigests} {operation : WriterOperation}
    (sealedAs : owner.SealedAs rows before) (effect : WriterEffect digests operation before after) :
    owner.SealedAs rows after ∨
      operation.Collects ∧ owner.isCited before.rows = false ∧ owner.Gone after.rows := by
  refine effect.preserves (fun store => owner.SealedAs rows store ∨ _) ?_ ?_ ?_ (.inl sealedAs)
  · rintro _ _ _ _ allowed (current | gone)
    · exact .inl ⟨current.isSealed.of_allows allowed, fun table row owns =>
        (owns.mem_iff_of_allows current.isSealed allowed).trans (current.content table row owns)⟩
    · exact .inr gone
  · rintro _ _ _ first second _ activated (current | gone)
    · obtain ⟨table, row, present, sealedBy⟩ := current.isSealed
      have others {table row} (belongs : owner.SealedBy table row ∨ owner.Owns table row) :=
        activated.others table (marked_of_owner belongs).1
      refine .inl ⟨⟨table, row, others (.inl sealedBy) ▸ present, sealedBy⟩, ?_⟩
      intro table row owns
      rw [others (.inr owns), current.content table row owns]
    · exact .inr gone
  · rintro _ _ _ called _ collected (current | gone)
    · exact (current.of_collected collected).imp_right fun gone => ⟨called, gone⟩
    · exact .inr gone

end ContentOwner

namespace Sample

def citing : MemoryVersionRow where
  revision := ⟨1, 7, 8⟩
  validitySourceSnapshot := some 52

/-- Three generations of a repository, and a memory version that cites the snapshot of the second;
then the first generation is collected, and its view with it. -/
theorem history_computed : ∃ events earlier later,
    Run (writerStep digests) earlier events later ∧
      earlier.rows .memoryVersions = [citing] ∧
      (⟨52, .complete, 52, 0, 0⟩ ∈ earlier.rows .sourceSnapshots ∧
        ⟨1, 1, .published⟩ ∈ earlier.rows .workspaceViews ∧
        ⟨1, 1, 1, 51, .retained, ⟨1, 0, 0, 0⟩⟩ ∈ earlier.rows .indexGenerations) ∧
      (later.rows .workspaceViews).map (·.view) = [2, 3] ∧
      (later.rows .indexGenerations).map (·.generation) = [2, 3] := by
  have computed : ((runOperations digests
      (activatedOperations ++ [.insertContent .memoryVersions citing]) emptyStore).bind fun first =>
        (runOperations digests [.applyGenerationRetention policy 0] first.2).map fun second =>
          (first.2.rows .memoryVersions,
            decide (⟨52, .complete, 52, 0, 0⟩ ∈ first.2.rows .sourceSnapshots ∧
              ⟨1, 1, .published⟩ ∈ first.2.rows .workspaceViews ∧
              ⟨1, 1, 1, 51, .retained, ⟨1, 0, 0, 0⟩⟩ ∈ first.2.rows .indexGenerations),
            (second.2.rows .workspaceViews).map (·.view),
            (second.2.rows .indexGenerations).map (·.generation))) =
      some ([citing], true, [2, 3], [2, 3]) := by
    decide +kernel
  obtain ⟨⟨_, earlier⟩, -, rest⟩ := Option.bind_eq_some_iff.mp computed
  obtain ⟨⟨_, later⟩, continued, same⟩ := Option.map_eq_some_iff.mp rest
  simp only [Prod.mk.injEq, decide_eq_true_eq] at same
  exact ⟨_, earlier, later, run_of_runOperations continued, same⟩

end Sample

section Runs

variable {digests : RetentionDigests} {operation : WriterOperation} {events : List WriterEvent}
  {earlier later : Store}

/-- In every run the content of a sealed owner stays exactly what it was, until a collection takes
the owner with all of its content. -/
theorem sealed_content_immutable (owner : ContentOwner) (rows : StoreRows)
    (run : Run (writerStep digests) earlier events later) (sealedAs : owner.SealedAs rows earlier) :
    owner.SealedAs rows later ∨
      Run.Takes (writerStep digests) earlier events later fun before event after =>
        event.operation.Collects ∧ owner.SealedAs rows before ∧ owner.Gone after.rows := by
  refine run.invariant_until (fun _ _ _ step current => ?_) sealedAs
  exact (current.of_effect (step_effect step)).imp_right fun gone => ⟨gone.1, current, gone.2.2⟩

/-- The collection takes the first view. -/
theorem sealed_content_immutable_of_collection : ∃ events earlier later,
    Run (writerStep Sample.digests) earlier events later ∧
      (ContentOwner.view 1).Sealed earlier.rows ∧
      Run.Takes (writerStep Sample.digests) earlier events later fun before event after =>
        event.operation.Collects ∧ (ContentOwner.view 1).SealedAs earlier.rows before ∧
          (ContentOwner.view 1).Gone after.rows := by
  obtain ⟨events, earlier, later, run, -, ⟨-, view, -⟩, views, -⟩ := Sample.history_computed
  have isSealed : (ContentOwner.view 1).Sealed earlier.rows := ⟨.workspaceViews, _, view, rfl, rfl⟩
  refine ⟨events, earlier, later, run, isSealed,
    (sealed_content_immutable _ _ run ⟨isSealed, fun _ _ _ => .rfl⟩).resolve_left ?_⟩
  rintro ⟨⟨table, row, present, sealedBy⟩, -⟩
  cases table <;> try exact sealedBy
  have listed := @List.mem_map_of_mem _ _ _ _ WorkspaceViewRow.view present
  rw [views, sealedBy.1] at listed
  exact absurd listed (by decide)

/-! ## Engineering memory -/

def isMemoryTable : StoreTable → Bool
  | .memoryVersions | .memoryEvidence | .memoryAudit | .memoryCorrespondenceAudit
  | .memoryProjectionGenerations | .memoryProjectionEvidence | .memoryProjectionCandidates => true
  | _ => false

theorem memory_guarded {table : StoreTable} (memory : isMemoryTable table = true)
    (marks : RetentionMarks) (rows : StoreRows) (old new : StoreRow table) :
    storeUpdateGuard rows table old new = false ∧ storeDeleteGuard marks rows table old = false ∧
      isMarked marks table old = false := by
  cases table <;> first
    | exact absurd memory Bool.false_ne_true
    | exact ⟨rfl, rfl, rfl⟩

/-- Every row of engineering memory is kept. -/
def MemoryGrows (before after : Store) : Prop :=
  ∀ table, isMemoryTable table = true → before.rows table ⊆ after.rows table

theorem MemoryGrows.of_effect (effect : WriterEffect digests operation earlier later) :
    MemoryGrows earlier later := by
  intro table memory row member
  refine effect.preserves (fun store => row ∈ store.rows table) ?_ ?_ ?_ member
  · intro _ first second _ allowed present
    rcases allowed.fate table row present with kept | ⟨new, _, guarded, -⟩ | ⟨guarded, -⟩
    · exact kept
    · cases (memory_guarded memory .none _ row new).1.symm.trans guarded
    · cases (memory_guarded memory .none _ row row).2.1.symm.trans guarded
  · intro _ _ _ first second _ activated present
    rw [activated.others table (by rintro rfl; cases memory)]
    exact present
  · intro _ _ _ _ _ collected present
    exact (collected.mem_iff (by rintro rfl; cases memory)).mpr
      ⟨present, (memory_guarded memory _ earlier.rows row row).2.2⟩

theorem MemoryGrows.isCited {owner : ContentOwner} (grows : MemoryGrows earlier later)
    (cited : owner.isCited earlier.rows = true) : owner.isCited later.rows = true := by
  have versions := @grows .memoryVersions rfl
  have evidence := @grows .memoryEvidence rfl
  have audit := @grows .memoryAudit rfl
  have correspondence := @grows .memoryCorrespondenceAudit rfl
  have projected := @grows .memoryProjectionEvidence rfl
  have candidates := @grows .memoryProjectionCandidates rfl
  cases owner with
  | snapshot digest =>
    simp only [ContentOwner.isCited, snapshotCited, Bool.or_eq_true, List.any_eq_true] at cited ⊢
    grind
  | artifact digest =>
    simp only [ContentOwner.isCited, artifactCited, Bool.or_eq_true, List.any_eq_true] at cited ⊢
    grind
  | overlay => cases cited
  | view => cases cited

/-- Engineering memory was only added to, and the sealed content it cited is what it was. -/
structure MemoryKept (before after : Store) : Prop where
  grows : MemoryGrows before after
  citations :
    ∀ owner : ContentOwner, owner.isCited before.rows = true → owner.Sealed before.rows →
      owner.SealedAs before.rows after

theorem memory_and_citations_kept (run : Run (writerStep digests) earlier events later) :
    MemoryKept earlier later := by
  refine run.invariant (fun middle _ after step kept => ?_) ?_
  · have effect := step_effect step
    have grown := MemoryGrows.of_effect effect
    refine ⟨fun table memory _ member => grown table memory (kept.grows table memory member), ?_⟩
    intro owner cited isSealed
    refine ((kept.citations owner cited isSealed).of_effect effect).resolve_right fun gone => ?_
    cases gone.2.1.symm.trans (kept.grows.isCited cited)
  · exact ⟨fun _ _ => List.Subset.refl _, fun _ _ isSealed => ⟨isSealed, fun _ _ _ => .rfl⟩⟩

/-- A collection comes after a version that cites a snapshot. -/
theorem memory_kept_of_collection : ∃ events earlier later,
    Run (writerStep Sample.digests) earlier events later ∧
      (Sample.citing ∈ earlier.rows .memoryVersions ∧
        (ContentOwner.snapshot 52).isCited earlier.rows = true ∧
        (ContentOwner.snapshot 52).Sealed earlier.rows) ∧
      (later.rows .indexGenerations).map (·.generation) = [2, 3] ∧
      Sample.citing ∈ later.rows .memoryVersions ∧
      (ContentOwner.snapshot 52).SealedAs earlier.rows later := by
  obtain ⟨events, earlier, later, run, versions, ⟨snapshot, -⟩, -, generations⟩ :=
    Sample.history_computed
  have cites : Sample.citing ∈ earlier.rows .memoryVersions := by simp [versions]
  have cited : (ContentOwner.snapshot 52).isCited earlier.rows = true := by
    simp [ContentOwner.isCited, snapshotCited, versions, Sample.citing]
  have isSealed : (ContentOwner.snapshot 52).Sealed earlier.rows :=
    ⟨.sourceSnapshots, _, snapshot, rfl, rfl⟩
  have kept := memory_and_citations_kept run
  exact ⟨events, earlier, later, run, ⟨cites, cited, isSealed⟩, generations,
    kept.grows .memoryVersions rfl cites, kept.citations _ cited isSealed⟩

/-! ## Generations -/

/-- Permitted steps lead from one state to the other. -/
abbrev GenerationLifecycle.Leads : GenerationLifecycle → GenerationLifecycle → Prop :=
  Relation.ReflTransGen fun first second => first.mayBecome second = true

/-- The row keeps what identifies the generation, has moved along its lifecycle, and has other
counts only if it became ready on the way. -/
structure IndexGenerationRow.Follows (old new : IndexGenerationRow) : Prop where
  kept : new = { setLifecycle new.lifecycle old with coverage := new.coverage }
  leads : old.lifecycle.Leads new.lifecycle
  covered : new.coverage = old.coverage ∨
      old.lifecycle.Leads .validating ∧ GenerationLifecycle.ready.Leads new.lifecycle

/-- A statement moves a generation by one step of its lifecycle at most. -/
theorem IndexGenerationRow.Follows.of_update {rows : StoreRows}
    {old row new : IndexGenerationRow} (follows : old.Follows row)
    (guarded : generationUpdateGuard rows row new = true)
    (updates : WriterScope.updates .indexGenerations row new) : old.Follows new := by
  obtain ⟨relabelled, counts⟩ := updates
  have leads : row.lifecycle.Leads new.lifecycle := by
    simp only [generationUpdateGuard, Bool.or_eq_true, Bool.and_eq_true, beq_iff_eq] at guarded
    rcases guarded with same | ⟨⟨becomes, -⟩, -⟩
    · rw [same]
    · exact .single becomes
  refine ⟨?_, follows.leads.trans leads, ?_⟩
  · rw [relabelled, follows.kept]
    rfl
  · rcases counts with same | ⟨validating, ready⟩
    · rw [same]
      exact follows.covered.imp_right fun became => ⟨became.1, became.2.trans leads⟩
    · exact .inr ⟨validating ▸ follows.leads, ready ▸ .refl⟩

/-- Some row of the store continues the generation. -/
def GenerationFollows (old : IndexGenerationRow) (store : Store) : Prop :=
  ∃ new ∈ store.rows .indexGenerations, old.Follows new

/-- A collection takes the retained row of a generation, and no other row has its number. -/
def GenerationCollected (old : IndexGenerationRow) (before : Store) (event : WriterEvent)
    (after : Store) : Prop :=
  event.operation.Collects ∧
    (∃ new ∈ before.rows .indexGenerations, old.Follows new ∧ new.lifecycle = .retained) ∧
    ∀ row ∈ after.rows .indexGenerations, row.generation ≠ old.generation

theorem GenerationFollows.of_step {old : IndexGenerationRow} {event : WriterEvent}
    (follows : GenerationFollows old earlier) (step : writerStep digests earlier event later) :
    GenerationFollows old later ∨ GenerationCollected old earlier event later := by
  refine (step_effect step).preserves
    (fun store => GenerationFollows old store ∨ GenerationCollected old earlier event later)
    ?_ ?_ ?_ (.inl follows)
  · rintro _ first second _ allowed (⟨row, present, follows⟩ | collected)
    · rcases allowed.fate .indexGenerations _ present with
        kept | ⟨new, newMember, guarded, updates⟩ | ⟨-, impossible⟩
      · exact .inl ⟨row, kept, follows⟩
      · exact .inl ⟨new, newMember, follows.of_update guarded updates⟩
      · exact impossible.elim
    · exact .inr collected
  · rintro _ _ _ first second _ activated (⟨row, present, follows⟩ | collected)
    · exact .inl ⟨row, activated.others .indexGenerations (by decide) ▸ present, follows⟩
    · exact .inr collected
  · rintro _ plan _ called _ collected (⟨row, present, follows⟩ | collected)
    · have same : row.generation = old.generation := by
        rw [follows.kept]
        rfl
      cases marked : plan.candidateGenerations.contains row.generation with
      | false => exact .inl ⟨row, (collected.mem_iff (by decide)).mpr ⟨present, marked⟩, follows⟩
      | true =>
        have markable := collected.markable _ (List.contains_iff_mem.mp marked)
        simp only [generationMarkable, generationStates, Bool.and_eq_true] at markable
        have state := eq_of_beq (eachOf_eq_true_iff.mp markable.1 _ present (by simp))
        refine .inr ⟨called, ⟨row, present, follows, state⟩, fun other left named => ?_⟩
        cases marked.symm.trans
          ((congrArg _ (same.trans named.symm)).trans ((collected.mem_iff (by decide)).mp left).2)
    · exact .inr collected

/-- In every run a generation keeps what identifies it and moves along its lifecycle, until it is
collected from the last state; one that failed or was cancelled stays as it is. -/
theorem generation_lifecycle_followed (run : Run (writerStep digests) earlier events later)
    {old : IndexGenerationRow} (present : old ∈ earlier.rows .indexGenerations) :
    (GenerationFollows old later ∨
      Run.Takes (writerStep digests) earlier events later (GenerationCollected old)) ∧
      (old.lifecycle.abandoned = true → old ∈ later.rows .indexGenerations) := by
  have final : old.lifecycle.abandoned = true →
      ∀ lifecycle, old.lifecycle.Leads lifecycle → lifecycle = old.lifecycle := by
    intro abandoned lifecycle leads
    rcases leads.cases_head with same | ⟨next, becomes, -⟩
    · exact same.symm
    · revert abandoned becomes
      cases old.lifecycle <;> cases next <;>
        simp [GenerationLifecycle.abandoned, GenerationLifecycle.mayBecome]
  have followed :=
    run.invariant_until (fun _ _ _ step current => GenerationFollows.of_step current step)
      ⟨old, present, rfl, .refl, .inl rfl⟩
  refine ⟨followed, fun abandoned => ?_⟩
  rcases followed with ⟨new, newMember, follows⟩ |
    ⟨_, _, _, _, _, _, _, _, _, _, ⟨new, _, follows, retained⟩, _⟩
  · have same : new = old := by
      rw [follows.kept, final abandoned _ follows.leads]
      rcases follows.covered with counts | ⟨validating, _⟩
      · rw [counts]
        rfl
      · rw [← final abandoned _ validating] at abandoned
        cases abandoned
    exact same ▸ newMember
  · rw [← final abandoned _ follows.leads, retained] at abandoned
    cases abandoned

/-- The first generation is collected from the retained state. -/
theorem generation_followed_to_collection : ∃ events earlier later,
    Run (writerStep Sample.digests) earlier events later ∧
      ⟨1, 1, 1, 51, .retained, ⟨1, 0, 0, 0⟩⟩ ∈ earlier.rows .indexGenerations ∧
      Run.Takes (writerStep Sample.digests) earlier events later
        (GenerationCollected ⟨1, 1, 1, 51, .retained, ⟨1, 0, 0, 0⟩⟩) := by
  obtain ⟨events, earlier, later, run, -, ⟨-, -, present⟩, -, generations⟩ :=
    Sample.history_computed
  refine ⟨events, earlier, later, run, present,
    (generation_lifecycle_followed run present).1.resolve_left ?_⟩
  rintro ⟨new, newMember, follows⟩
  have listed := @List.mem_map_of_mem _ _ _ _ IndexGenerationRow.generation newMember
  rw [generations, follows.kept] at listed
  exact absurd (show 1 ∈ [2, 3] from listed) (by decide)

end Runs

/-! ## Collections -/

section Replay

variable {digests : RetentionDigests} {policy : GenerationRetentionPolicy} {before after : Store}

variable {plan : RetentionPlan} {outcome : RetentionApplyOutcome}

theorem load_of_recorded {store : Store}
    (recorded : outcome.auditRow plan ∈ store.rows .retentionCollectionAudit) :
    loadAppliedRetention store.rows plan.policyDigest plan.planDigest = some outcome := by
  unfold loadAppliedRetention
  cases found : (store.rows .retentionCollectionAudit).find? fun row =>
      row.policyDigest == plan.policyDigest && row.planDigest == plan.planDigest with
  | none =>
    have other := List.find?_eq_none.mp found _ recorded
    simp [RetentionApplyOutcome.auditRow] at other
  | some row =>
    have digests := List.find?_some found
    rw [Bool.and_eq_true, beq_iff_eq, beq_iff_eq] at digests
    have same : row = outcome.auditRow plan :=
      eq_of_columns (show UniqueKeys.collectionPlan ∈ storeUniqueKeys by simp [storeUniqueKeys])
        store (List.mem_of_find?_eq_some found) recorded (Prod.ext digests.1 digests.2)
    rw [same]
    rfl

theorem sweepRetentionPlan_recorded {budget spent : RetentionWorkBudget}
    (swept : Succeeds (sweepRetentionPlan plan budget) before (outcome, spent) after) :
    outcome.auditRow plan ∈ after.rows .retentionCollectionAudit := by
  unfold sweepRetentionPlan insertRow at swept
  simp only [succeeds_bind, succeeds_pure, succeeds_fallible, succeeds_attempt,
    Prod.mk.injEq] at swept
  obtain ⟨_, _, -, _, _, -, _, _, -, _, _, -, _, _, -, _, _, -, _, _, inserted, _, _, ⟨-, rfl⟩,
    ⟨rfl, -⟩, rfl⟩ := swept
  rw [(Database.insert_eq_some_iff.mp inserted).2, setTable_same]
  exact List.mem_append_right _ (List.mem_singleton_self _)

/-- A collection that is asked for again answers as before and changes nothing. -/
theorem retention_replays {expectedPlan : Bytes32}
    (applied :
      Succeeds (applyGenerationRetention digests policy expectedPlan) before outcome after) :
    Succeeds (applyGenerationRetention digests policy expectedPlan) after outcome after := by
  have recorded :
      loadAppliedRetention after.rows (digests.policy policy) expectedPlan = some outcome := by
    unfold applyGenerationRetention at applied
    obtain ⟨_, _, read, applied⟩ := succeeds_bind.mp applied
    obtain ⟨rfl, rfl⟩ := succeeds_get.mp read
    split at applied
    next recorded =>
      obtain ⟨rfl, rfl⟩ := succeeds_pure.mp applied
      exact recorded
    next =>
      simp only [succeeds_bind, succeeds_fallible, succeeds_require, succeeds_pure,
        beq_iff_eq] at applied
      obtain ⟨⟨plan, _⟩, _, ⟨built, rfl⟩, _, _, ⟨rfl, rfl⟩, ⟨_, _⟩, _, swept, rfl, rfl⟩ := applied
      rw [← (planned_of_build built).2]
      exact load_of_recorded (sweepRetentionPlan_recorded swept)
  unfold applyGenerationRetention
  refine succeeds_bind.mpr ⟨after, after, succeeds_get.mpr ⟨rfl, rfl⟩, ?_⟩
  rw [recorded]
  exact succeeds_pure.mpr ⟨rfl, rfl⟩

theorem retention_replays_of_three_generations : ∃ plan outcome after,
    outcome.deletedRows = 5 ∧
      Succeeds (applyGenerationRetention Sample.digests Sample.policy plan) after outcome
        after := by
  obtain ⟨⟨before, plan, result⟩, computed, observed⟩ :=
    Option.map_eq_some_iff.mp Sample.activatedCollection_computed
  obtain ⟨-, deleted⟩ := Prod.ext_iff.mp observed
  obtain ⟨⟨outcome, after⟩, applied, counted⟩ := Option.map_eq_some_iff.mp deleted
  obtain ⟨-, -, executed⟩ := Sample.collection_eq_some computed
  exact ⟨plan.planDigest, outcome, after, counted,
    retention_replays (executed.trans (except_toOption_eq_some_iff.mp applied))⟩

end Replay

end RepoWitness
