import RepoWitness.RelationalSweep
import RepoWitness.RetentionPlanFacts

namespace RepoWitness

open Transaction

/-!
# What a collection does

A collection that is applied leaves exactly the rows its marks do not select
and one more audit row.  It charges one row for every mark, every deleted row
and the audit row.  Where its marks are closed, only the limit stops it.
-/

namespace RetentionWorkBudget

variable {budget charged : RetentionWorkBudget} {rows more : Nat}

/-- What is used and reserved is within the limit. -/
def Fits (budget : RetentionWorkBudget) : Prop := budget.consumed + budget.reserved ≤ budget.maximum

theorem Fits.of_consume (consumed : budget.consume rows = .ok charged) : charged.Fits := by
  obtain ⟨fits, rfl⟩ := consume_eq_ok_iff.mp consumed
  exact fits

variable {error : SqliteStoreError}

theorem consume_eq_error (stopped : budget.consume rows = .error error) :
    error = .retentionLimitExceeded := by
  unfold consume withinLimit at stopped
  split at stopped
  · cases stopped
  · exact (Except.error.inj stopped).symm

theorem consume_more_of_error (stopped : budget.consume rows = .error error) :
    budget.consume (rows + more) = .error error := by
  cases larger : budget.consume (rows + more) with
  | error other => rw [consume_eq_error larger, consume_eq_error stopped]
  | ok charged =>
    obtain ⟨fits, _⟩ := consume_eq_ok_iff.mp larger
    have smaller := consume_eq_ok_iff.mpr
        ⟨show budget.consumed + rows + budget.reserved ≤ budget.maximum by omega, rfl⟩
    rw [stopped] at smaller
    cases smaller

/-- Two charges are one. -/
theorem consume_consume (first : budget.consume rows = .ok charged) :
    charged.consume more = budget.consume (rows + more) := by
  obtain ⟨_, rfl⟩ := consume_eq_ok_iff.mp first
  unfold consume
  rw [Nat.add_assoc]

end RetentionWorkBudget

/-- The action charges the rows.  It succeeds only if they fit, and the limit
stops it only if they do not; nothing else stops it where it is accepted. -/
structure Spends {α : Type} (accepted : Prop) (action : WriterTransaction α) (before : Store)
    (budget : RetentionWorkBudget) (rows : Nat)
    (post : RetentionWorkBudget → α → Store → Prop) : Prop where
  spent : ∀ {value after}, Succeeds action before value after →
      ∃ charged, budget.consume rows = .ok charged ∧ post charged value after
  stopped : ∀ {error}, Fails action before error →
      budget.consume rows = .error error ∨ error ≠ .retentionLimitExceeded ∧ ¬accepted

namespace Spends

variable {α β : Type} {accepted other : Prop} {before : Store} {budget : RetentionWorkBudget}
  {rows more : Nat} {post : RetentionWorkBudget → α → Store → Prop}
  {first : RetentionWorkBudget → β → Store → Prop}

theorem pure (fits : budget.Fits) {value : α} (holds : post budget value before) :
    Spends accepted (Pure.pure value) before budget 0 post := by
  constructor
  · intro value after execution
    obtain ⟨rfl, rfl⟩ := succeeds_pure.mp execution
    exact ⟨budget, RetentionWorkBudget.consume_eq_ok_iff.mpr ⟨fits, rfl⟩, holds⟩
  · exact fun failed => absurd failed fails_pure

theorem consume : Spends accepted (fallible (budget.consume rows)) before budget rows
      fun charged value after => value = charged ∧ after = before := by
  constructor
  · intro value after execution
    obtain ⟨consumed, rfl⟩ := succeeds_fallible.mp execution
    exact ⟨value, consumed, rfl, rfl⟩
  · exact fun failed => .inl (fails_fallible.mp failed)

theorem refused {error : SqliteStoreError} (refusal : ¬accepted)
    (different : error ≠ .retentionLimitExceeded) :
    Spends accepted (fallible (.error error)) before budget rows post := by
  constructor
  · intro value after execution
    simp at execution
  · intro error failed
    cases fails_fallible.mp failed
    exact .inr ⟨different, refusal⟩

theorem bind {action : WriterTransaction β} {next : β → WriterTransaction α}
    (spends : Spends accepted action before budget rows first)
    (later :
      ∀ {charged value middle}, budget.consume rows = .ok charged → first charged value middle →
        Spends accepted (next value) middle charged more post) :
    Spends accepted (action >>= next) before budget (rows + more) post := by
  constructor
  · intro value after execution
    obtain ⟨result, middle, runs, continues⟩ := succeeds_bind.mp execution
    obtain ⟨charged, consumed, holds⟩ := spends.spent runs
    rw [← RetentionWorkBudget.consume_consume consumed]
    exact (later consumed holds).spent continues
  · intro error failed
    rcases fails_bind.mp failed with stopped | ⟨result, middle, runs, continues⟩
    · exact (spends.stopped stopped).imp_left RetentionWorkBudget.consume_more_of_error
    · obtain ⟨charged, consumed, holds⟩ := spends.spent runs
      rw [← RetentionWorkBudget.consume_consume consumed]
      exact (later consumed holds).stopped continues

/-- What charges nothing comes last. -/
theorem bind_last {action : WriterTransaction β} {next : β → WriterTransaction α}
    (spends : Spends accepted action before budget rows first)
    (later :
      ∀ {charged value middle}, budget.consume rows = .ok charged → first charged value middle →
        Spends accepted (next value) middle charged 0 post) :
    Spends accepted (action >>= next) before budget rows post :=
  spends.bind later

theorem fallible_bind {computation : Except SqliteStoreError β}
    {next : β → Except SqliteStoreError α}
    (spends : Spends accepted (fallible computation) before budget rows first)
    (later :
      ∀ {charged value middle}, budget.consume rows = .ok charged → first charged value middle →
        Spends accepted (fallible (next value)) middle charged more post) :
    Spends accepted (fallible (computation >>= next)) before budget (rows + more) post := by
  have same : (fallible (computation >>= next) : WriterTransaction α) =
        fallible computation >>= fun value => fallible (next value) := by
    funext state
    cases computation <;> rfl
  rw [same]
  exact spends.bind later

/-- A step that charges nothing comes first. -/
theorem step {action : WriterTransaction β} {next : β → WriterTransaction α}
    (refusal :
      ∀ {error}, Fails action before error → error ≠ .retentionLimitExceeded ∧ ¬accepted)
    (later : ∀ {value middle}, Succeeds action before value middle →
        Spends accepted (next value) middle budget rows post) :
    Spends accepted (action >>= next) before budget rows post := by
  constructor
  · intro value after execution
    obtain ⟨result, middle, runs, continues⟩ := succeeds_bind.mp execution
    exact (later runs).spent continues
  · intro error failed
    rcases fails_bind.mp failed with stopped | ⟨result, middle, runs, continues⟩
    · exact .inr (refusal stopped)
    · exact (later runs).stopped continues

theorem read {next : Store → WriterTransaction α}
    (later : Spends accepted (next before) before budget rows post) :
    Spends accepted (get >>= next) before budget rows post := by
  refine step (fun failed => absurd failed fails_get) fun execution => ?_
  obtain ⟨rfl, rfl⟩ := succeeds_get.mp execution
  exact later

theorem require {error : SqliteStoreError} {condition : Bool} {next : Unit → WriterTransaction α}
    (different : error ≠ .retentionLimitExceeded) (holds : accepted → condition = true)
    (later : condition = true → Spends accepted (next ()) before budget rows post) :
    Spends accepted (Transaction.require error condition >>= next) before budget rows post := by
  refine step (fun failed => ?_) fun execution => ?_
  · obtain ⟨fails, rfl⟩ := fails_require.mp failed
    exact ⟨different, fun isAccepted => by simp [holds isAccepted] at fails⟩
  · obtain ⟨checked, rfl⟩ := succeeds_require.mp execution
    exact later checked

variable {action : WriterTransaction α} {charged : RetentionWorkBudget}

theorem weaken (spends : Spends accepted action before budget rows post)
    (weaker : other → accepted) :
    Spends other action before budget rows post :=
  ⟨spends.spent, fun failed => (spends.stopped failed).imp_right fun ⟨different, refusal⟩ =>
    ⟨different, fun isOther => refusal (weaker isOther)⟩⟩

theorem imp {result : RetentionWorkBudget → α → Store → Prop}
    (spends : Spends accepted action before budget rows post)
    (implies : ∀ charged value after, post charged value after → result charged value after) :
    Spends accepted action before budget rows result :=
  ⟨fun execution => (spends.spent execution).imp fun _ => And.imp_right (implies _ _ _),
    spends.stopped⟩

theorem succeeds (spends : Spends accepted action before budget rows post) (isAccepted : accepted)
    (consumed : budget.consume rows = .ok charged) :
    ∃ value after, Succeeds action before value after := by
  cases execution : action.run before with
  | ok result => exact ⟨result.1, result.2, execution⟩
  | error error =>
    rcases spends.stopped execution with stopped | ⟨_, refusal⟩
    · rw [consumed] at stopped
      cases stopped
    · exact absurd isAccepted refusal

theorem limit {error : SqliteStoreError} (spends : Spends accepted action before budget rows post)
    (isAccepted : accepted) (failed : Fails action before error) :
    error = .retentionLimitExceeded := by
  rcases spends.stopped failed with stopped | ⟨_, refusal⟩
  · exact RetentionWorkBudget.consume_eq_error stopped
  · exact absurd isAccepted refusal

end Spends

section Marked

variable {marks : RetentionMarks}

theorem isMarked_listed (table : StoreTable) (row : StoreRow table)
    (marked : isMarked marks table row = true) :
    table ∈ retentionDeleteOrder := by
  cases table <;> first | decide | exact absurd marked (by simp [isMarked])

/-- A mark authorizes the deletion of every row it selects. -/
theorem isMarked_guarded (rows : StoreRows) {table : StoreTable} (row : StoreRow table)
    (marked : isMarked marks table row = true) :
    storeDeleteGuard marks rows table row = true := by
  cases table <;>
    simp_all [isMarked, storeDeleteGuard, artifactDeleteGuard,
      overlayDeleteGuard, receiptDeleteGuard]

theorem retentionDeleteOrder_childFirst : ∀ reference ∈ storeForeignKeys,
      reference.ChildFirst retentionDeleteOrder := by
  decide

theorem retentionDeleteOrder_nodup : retentionDeleteOrder.Nodup := by
  decide

theorem cascading_closed_of_keys {child parent : StoreTable} {Key : Type} [DecidableEq Key]
    {childKey : StoreRow child → Key} {parentKey : StoreRow parent → Key} {rows : StoreRows}
    (together : ∀ childRow parentRow, childKey childRow = parentKey parentRow →
        isMarked marks parent parentRow = true → isMarked marks child childRow = true) :
    (cascadingReference child parent childKey parentKey).Closed (isMarked marks) rows := by
  intro childRow _ parentRow _ references
  exact together childRow parentRow (Option.some.inj references)

theorem cascading_closed (rows : StoreRows) :
    ∀ reference ∈ storeForeignKeys, reference.cascades = true →
      reference.Closed (isMarked marks) rows := by
  intro reference declared cascades
  have cascading : reference ∈ storeForeignKeys.filter fun reference => reference.cascades :=
    List.mem_filter.mpr ⟨declared, cascades⟩
  have listed : (storeForeignKeys.filter fun reference => reference.cascades) =
        [References.syntaxRequirementGeneration,
          References.syntaxPublicationRequirement,
          References.syntaxArtifactPublication,
          References.topologyRequirementGeneration,
          References.topologyPublicationRequirement,
          References.topologyEntryPublication] := by
    rfl
  rw [listed] at cascading
  simp only [List.mem_cons, List.not_mem_nil, or_false] at cascading
  rcases cascading with rfl | rfl | rfl | rfl | rfl | rfl <;>
    exact cascading_closed_of_keys fun childRow parentRow same marked => by simp_all [isMarked]

end Marked

section Tables

/-- Marked rows of the listed tables. -/
def markedRows (marks : RetentionMarks) (rows : StoreRows) (tables : List StoreTable) : Nat :=
  (tables.map fun table => (rows table).countP (isMarked marks table)).sum

variable {marks : RetentionMarks} {base before after : Store} {swept rest : List StoreTable}

variable {table : StoreTable}

theorem not_mem_of_order (shape : retentionDeleteOrder = swept ++ table :: rest) :
    table ∉ swept := by
  have distinct := retentionDeleteOrder_nodup
  rw [shape] at distinct
  intro member
  exact (List.nodup_append.mp distinct).2.2 table member table (List.mem_cons_self) rfl

theorem deleteMarkedRows_succeeds {count : Nat}
    (stage : before.rows = sweptRows (isMarked marks) swept base.rows)
    (shape : retentionDeleteOrder = swept ++ table :: rest)
    (deleted : Succeeds (deleteMarkedRows marks table) before count after) :
    after.rows = sweptRows (isMarked marks) (swept ++ [table]) base.rows ∧
      count = (base.rows table).countP (isMarked marks table) := by
  unfold deleteMarkedRows at deleted
  simp only [succeeds_bind, succeeds_get, succeeds_attempt, succeeds_pure] at deleted
  obtain ⟨_, _, ⟨rfl, rfl⟩, _, _, accepted, rfl, rfl⟩ := deleted
  refine ⟨Database.delete_rows_of_swept stage accepted shape
    retentionDeleteOrder_childFirst isMarked_listed
    (cascading_closed base.rows), ?_⟩
  rw [stage, sweptRows_of_not_mem _ (not_mem_of_order shape)]

variable {accepted : Prop} {budget : RetentionWorkBudget}

/-- A table whose rows go together with those that name them is swept. -/
theorem deleteMarkedRows_refused {error : SqliteStoreError}
    (closed :
      accepted → ∀ reference ∈ storeForeignKeys, reference.Closed (isMarked marks) base.rows)
    (stage : before.rows = sweptRows (isMarked marks) swept base.rows)
    (shape : retentionDeleteOrder = swept ++ table :: rest)
    (failed : Fails (deleteMarkedRows marks table) before error) :
    error ≠ .retentionLimitExceeded ∧ ¬accepted := by
  unfold deleteMarkedRows at failed
  simp only [fails_bind, fails_get, fails_attempt, fails_pure, succeeds_get,
    false_or, and_false, exists_false, or_false] at failed
  obtain ⟨_, _, ⟨rfl, rfl⟩, refused, rfl⟩ := failed
  refine ⟨by simp, fun isAccepted => ?_⟩
  obtain ⟨next, deletes⟩ :=
    Database.delete_accepted_of_swept stage (fun row => isMarked_guarded before.rows row) shape
      retentionDeleteOrder_childFirst isMarked_listed (closed isAccepted)
  rw [deletes] at refused
  cases refused

/-- The tables left to sweep lose their marked rows, each charged once. -/
theorem sweepTables_spends (deleted : Nat)
    (closed :
      accepted → ∀ reference ∈ storeForeignKeys, reference.Closed (isMarked marks) base.rows)
    (stage : before.rows = sweptRows (isMarked marks) swept base.rows)
    (shape : retentionDeleteOrder = swept ++ rest) (fits : budget.Fits) :
    Spends accepted (sweepTables marks rest deleted budget) before budget
      (markedRows marks base.rows rest) fun charged result after =>
        result = (deleted + markedRows marks base.rows rest, charged) ∧
          after.rows = sweptRows (isMarked marks) retentionDeleteOrder base.rows := by
  induction rest generalizing before swept deleted budget with
  | nil =>
    rw [List.append_nil] at shape
    exact Spends.pure fits ⟨rfl, by rw [stage, shape]⟩
  | cons table rest hypothesis =>
    have split : markedRows marks base.rows (table :: rest) =
          (base.rows table).countP (isMarked marks table) + markedRows marks base.rows rest := by
      simp [markedRows]
    unfold sweepTables
    rw [split]
    refine Spends.step (deleteMarkedRows_refused closed stage shape) fun deletes => ?_
    obtain ⟨nextStage, rfl⟩ := deleteMarkedRows_succeeds stage shape deletes
    refine Spends.consume.bind fun consumed charged => ?_
    obtain ⟨rfl, rfl⟩ := charged
    rw [← Nat.add_assoc]
    exact hypothesis _ nextStage (by simp [shape]) (.of_consume consumed)

end Tables

section Marking

variable {rows : StoreRows} {generations : List Nat}

variable {accepted : Prop} {before : Store} {budget : RetentionWorkBudget} {marked : List Nat}

theorem markGeneration_spends {generation : Nat} : Spends
      (generation ∉ marked ∧ (∃ row ∈ rows .indexGenerations, row.generation = generation) ∧
        generationMarkable rows generation = true)
      (fallible (markGeneration rows (marked, budget) generation)) before budget (1 + 0)
      fun charged result after =>
        result = (marked ++ [generation], charged) ∧ after = before ∧
          generationMarkable rows generation = true := by
  unfold markGeneration
  split
  next ready =>
    rw [Bool.and_eq_true] at ready
    refine Spends.consume.fallible_bind fun consumed charged => ?_
    obtain ⟨rfl, rfl⟩ := charged
    exact Spends.pure (.of_consume consumed) ⟨rfl, rfl, ready.2⟩
  next refused =>
    refine Spends.refused ?_ (by simp)
    rintro ⟨fresh, present, markable⟩
    exact refused (by simpa [fresh, markable] using present)

/-- Distinct retained generations are marked in turn, one row for each. -/
theorem markGenerations_spends (fits : budget.Fits) : Spends
      ((marked ++ generations).Nodup ∧
        ∀ generation ∈ generations,
          (∃ row ∈ rows .indexGenerations, row.generation = generation) ∧
            generationMarkable rows generation = true)
      (fallible (generations.foldlM (markGeneration rows) (marked, budget))) before budget
      generations.length fun charged result after =>
        result = (marked ++ generations, charged) ∧ after = before ∧
          ∀ generation ∈ generations, generationMarkable rows generation = true := by
  induction generations generalizing marked budget with
  | nil => exact Spends.pure fits (by simp)
  | cons generation rest hypothesis =>
    rw [List.foldlM_cons, List.length_cons, Nat.add_comm]
    refine (markGeneration_spends.weaken ?_).fallible_bind fun consumed step => ?_
    · rintro ⟨distinct, ready⟩
      refine ⟨fun member => ?_, ready generation (by simp)⟩
      exact (List.nodup_append.mp distinct).2.2 generation member generation (by simp) rfl
    · obtain ⟨rfl, rfl, markable⟩ := step
      refine ((hypothesis (.of_consume consumed)).weaken ?_).imp ?_
      · rintro ⟨distinct, ready⟩
        exact ⟨by simpa using distinct, fun other member => ready other (by simp [member])⟩
      · rintro charged result after ⟨rfl, rfl, each⟩
        exact ⟨by simp, rfl, by simpa using ⟨markable, each⟩⟩

theorem insertMarks_spends {α : Type} {markable : α → Bool} {marks : List α}
    (accepts : accepted → marks.all markable = true) :
    Spends accepted (fallible (insertMarks markable marks budget)) before budget marks.length
      fun charged value after => value = charged ∧ after = before := by
  unfold insertMarks
  split
  next => exact Spends.consume
  next refused => exact Spends.refused (fun isAccepted => refused (accepts isAccepted)) (by simp)

def RetentionMarks.dependentCount (marks : RetentionMarks) : Nat :=
  marks.overlays.length + marks.views.length + marks.receipts.length +
    marks.snapshots.length + marks.artifacts.length

/-- Every dependent mark passes its trigger. -/
structure DependentsMarkable (rows : StoreRows) (generations : List Nat) : Prop where
  overlays : (overlayMarks rows generations).all (overlayMarkable rows generations) = true
  views : (viewMarks rows generations).all (viewMarkable rows) = true
  receipts : (receiptMarks rows generations).all (receiptMarkable rows) = true
  snapshots : (snapshotMarks rows generations).all (snapshotMarkable rows generations) = true
  artifacts : (artifactMarks rows generations).all (artifactMarkable rows generations) = true

theorem markRetentionDependents_spends :
    Spends (DependentsMarkable rows generations)
      (fallible (markRetentionDependents rows generations budget)) before budget
      (retentionMarks rows generations).dependentCount
      fun charged value after => value = charged ∧ after = before := by
  unfold markRetentionDependents RetentionMarks.dependentCount
  simp only [Nat.add_assoc]
  refine (insertMarks_spends fun ready => ready.overlays).fallible_bind ?_
  rintro _ _ _ - ⟨rfl, rfl⟩
  refine (insertMarks_spends fun ready => ready.views).fallible_bind ?_
  rintro _ _ _ - ⟨rfl, rfl⟩
  refine (insertMarks_spends fun ready => ready.receipts).fallible_bind ?_
  rintro _ _ _ - ⟨rfl, rfl⟩
  refine (insertMarks_spends fun ready => ready.snapshots).fallible_bind ?_
  rintro _ _ _ - ⟨rfl, rfl⟩
  exact insertMarks_spends fun ready => ready.artifacts

/-- Without a marked generation nothing is marked. -/
theorem isMarked_of_no_generation (table : StoreTable) (row : StoreRow table) :
    isMarked (retentionMarks rows []) table row = false := by
  cases table <;>
    simp [isMarked, retentionMarks, overlayMarks, viewMarks, receiptMarks,
      snapshotMarks, artifactMarks, candidateArtifacts]

end Marking

section Collection

def collectedRowCount (rows : StoreRows) (generations : List Nat) : Nat :=
  markedRows (retentionMarks rows generations) rows retentionDeleteOrder

def collectionCharge (rows : StoreRows) (generations : List Nat) : Nat :=
  generations.length + (retentionMarks rows generations).dependentCount +
    collectedRowCount rows generations + 1

/-- Exactly the rows no mark selects are left, apart from the audit. -/
structure Collected (before after : Store) (generations : List Nat) : Prop where
  rows : ∀ table, table ≠ .retentionCollectionAudit → after.rows table =
        (before.rows table).filter fun row =>
          !isMarked (retentionMarks before.rows generations) table row
  markable : ∀ generation ∈ generations, generationMarkable before.rows generation = true

variable {before after : Store} {generations : List Nat} {budget : RetentionWorkBudget}

theorem Collected.mem_iff (collected : Collected before after generations) {table : StoreTable}
    (different : table ≠ .retentionCollectionAudit) {row : StoreRow table} :
    row ∈ after.rows table ↔ row ∈ before.rows table ∧
        isMarked (retentionMarks before.rows generations) table row =
          false := by
  rw [collected.rows table different, List.mem_filter]
  simp

theorem sweptRows_retentionDeleteOrder (marks : RetentionMarks) (rows : StoreRows)
    (table : StoreTable) :
    sweptRows (isMarked marks) retentionDeleteOrder rows table =
      (rows table).filter fun row => !isMarked marks table row := by
  unfold sweptRows
  split
  next => rfl
  next unlisted =>
    refine (List.filter_eq_self.mpr fun row _ => ?_).symm
    rw [Bool.not_eq_true', ← Bool.not_eq_true]
    exact fun marked => unlisted (isMarked_listed table row marked)

theorem markedRows_of_no_generation (rows : StoreRows) (tables : List StoreTable) :
    markedRows (retentionMarks rows []) rows tables = 0 := by
  induction tables with
  | nil => rfl
  | cons table rest hypothesis =>
    unfold markedRows at hypothesis ⊢
    rw [List.map_cons, List.sum_cons, hypothesis, Nat.add_zero, List.countP_eq_zero]
    intro row _
    simp [isMarked_of_no_generation]

theorem sweepMarkedRows_spends (fits : budget.Fits) : Spends
      (∀ reference ∈ storeForeignKeys,
        reference.Closed (isMarked (retentionMarks before.rows generations)) before.rows)
      (sweepMarkedRows (retentionMarks before.rows generations) budget) before budget
      (collectedRowCount before.rows generations) fun charged result after =>
        result = (collectedRowCount before.rows generations, charged) ∧
          after.rows =
            sweptRows (isMarked (retentionMarks before.rows generations))
              retentionDeleteOrder before.rows := by
  unfold sweepMarkedRows collectedRowCount
  split
  next noGeneration =>
    have empty : generations = [] := List.isEmpty_iff.mp noGeneration
    subst empty
    rw [markedRows_of_no_generation]
    refine Spends.pure fits ⟨rfl, ?_⟩
    funext table
    rw [sweptRows_retentionDeleteOrder]
    refine (List.filter_eq_self.mpr fun row _ => ?_).symm
    simp [isMarked_of_no_generation]
  next =>
    have stage : before.rows =
          sweptRows (isMarked (retentionMarks before.rows generations)) [] before.rows := by
      funext table
      simp [sweptRows]
    refine (sweepTables_spends 0 id stage (List.nil_append _).symm fits).bind_last ?_
    rintro charged _ swept consumed ⟨rfl, final⟩
    refine .read (.require (by simp) (fun _ => ?_) fun _ => ?_)
    · rw [final]
      simp only [marksConsumed, List.all_eq_true, Bool.not_eq_true',
        List.any_eq_false, sweptRows_retentionDeleteOrder]
      intro table _ row member
      simpa using (List.mem_filter.mp member).2
    · exact Spends.pure (.of_consume consumed) ⟨by rw [Nat.zero_add], final⟩

theorem le_foldl_max (identifiers : List Nat) (start : Nat) :
    start ≤ identifiers.foldl max start ∧
      ∀ identifier ∈ identifiers, identifier ≤ identifiers.foldl max start := by
  induction identifiers generalizing start with
  | nil => simp
  | cons first rest hypothesis =>
    obtain ⟨bound, bounds⟩ := hypothesis (max start first)
    rw [List.foldl_cons]
    refine ⟨by omega, ?_⟩
    intro identifier member
    rcases List.mem_cons.mp member with rfl | later
    · omega
    · exact bounds identifier later

theorem nextRowId_fresh (identifiers : List Nat) : nextRowId identifiers ∉ identifiers := by
  intro member
  have bound := (le_foldl_max identifiers 0).2 _ member
  unfold nextRowId at bound
  omega

theorem uniqueColumns_append {table : StoreTable} {Key : Type} [DecidableEq Key]
    {key : StoreRow table → Key} {rows : StoreRows} {row : StoreRow table}
    (holds : (uniqueColumns table key).Holds rows) (fresh : key row ∉ (rows table).map key) :
    (uniqueColumns table key).Holds (setTable rows table (rows table ++ [row])) := by
  unfold UniqueKey.Holds uniqueColumns at holds ⊢
  simp only [setTable_same, List.filterMap_eq_map', List.map_append,
    List.map_cons, List.map_nil] at holds ⊢
  simpa using List.Nodup.concat fresh holds

theorem insert_audit_accepted {store : Store} {row : RetentionCollectionAuditRow}
    (refused : store.insert .retentionCollectionAudit row = none)
    (freshNumber :
      row.collection ∉ (store.rows .retentionCollectionAudit).map fun row => row.collection)
    (freshDigests :
      (row.policyDigest, row.planDigest) ∉
        (store.rows .retentionCollectionAudit).map fun row => (row.policyDigest, row.planDigest)) :
    False := by
  have around : storeSchema.ConsistentAround (· == .retentionCollectionAudit)
        (setTable store.rows .retentionCollectionAudit
          (store.rows .retentionCollectionAudit ++ [row])) := by
    constructor
    · have untouched : ∀ reference ∈ storeForeignKeys,
            (reference.child == .retentionCollectionAudit ||
              reference.parent == .retentionCollectionAudit) = false := by
        decide
      intro reference declared touched
      rw [untouched reference declared] at touched
      cases touched
    · intro unique declared touched
      have audited :
          unique ∈ storeUniqueKeys.filter fun unique => unique.table == .retentionCollectionAudit :=
        List.mem_filter.mpr ⟨declared, touched⟩
      have listed :
          (storeUniqueKeys.filter fun unique =>
            unique.table == .retentionCollectionAudit) =
              [UniqueKeys.collectionPlan,
                uniqueColumns .retentionCollectionAudit (fun row => row.collection)] := by
        rfl
      rw [listed] at audited
      simp only [List.mem_cons, List.not_mem_nil, or_false] at audited
      have holds := store.consistent.2 unique declared
      rcases audited with rfl | rfl
      · exact uniqueColumns_append holds freshDigests
      · exact uniqueColumns_append holds freshNumber
  have consistent := store.consistent.of_around (fun table different =>
    setTable_of_ne _ _ (by simpa using different)) around
  have inserted := Database.insert_eq_some_iff.mpr
    ⟨rfl, show (⟨_, consistent⟩ : Store).rows = _ from rfl⟩
  rw [refused] at inserted
  cases inserted

theorem unrecorded_iff {rows : StoreRows} {policyDigest planDigest : Bytes32} :
    loadAppliedRetention rows policyDigest planDigest = none ↔
      (policyDigest, planDigest) ∉
        (rows .retentionCollectionAudit).map fun row => (row.policyDigest, row.planDigest) := by
  unfold loadAppliedRetention
  simp only [Option.map_eq_none_iff, List.find?_eq_none, Bool.and_eq_true,
    beq_iff_eq, List.mem_map, Prod.mk.injEq, not_exists, not_and]

/-- Nothing in the store is in the way of the plan. -/
structure Sweepable (rows : StoreRows) (plan : RetentionPlan) : Prop where
  distinct : plan.candidateGenerations.Nodup
  ready : ∀ generation ∈ plan.candidateGenerations,
      (∃ row ∈ rows .indexGenerations, row.generation = generation) ∧
        generationMarkable rows generation = true
  dependents : DependentsMarkable rows plan.candidateGenerations
  closed : ∀ reference ∈ storeForeignKeys,
      reference.Closed (isMarked (retentionMarks rows plan.candidateGenerations)) rows
  unrecorded : loadAppliedRetention rows plan.policyDigest plan.planDigest = none

theorem sweepRetentionPlan_spends {plan : RetentionPlan} (fits : budget.Fits) :
    Spends (Sweepable before.rows plan) (sweepRetentionPlan plan budget) before budget
      (collectionCharge before.rows plan.candidateGenerations) fun _ result after =>
        Collected before after plan.candidateGenerations ∧
          result.1.deletedRows = collectedRowCount before.rows plan.candidateGenerations := by
  unfold sweepRetentionPlan insertRow collectionCharge
  simp only [Nat.add_assoc]
  refine .read ?_
  refine ((markGenerations_spends fits).weaken fun sweepable => ?_).bind ?_
  · exact ⟨sweepable.distinct, sweepable.ready⟩
  rintro _ _ _ - ⟨rfl, rfl, markable⟩
  dsimp only [List.nil_append]
  refine (markRetentionDependents_spends.weaken fun sweepable => sweepable.dependents).bind ?_
  rintro _ _ _ marked ⟨rfl, rfl⟩
  refine .require (by simp) (fun _ => by simp [retentionMarks]) fun _ => ?_
  refine ((sweepMarkedRows_spends (.of_consume marked)).weaken ?_).bind ?_
  · exact fun sweepable => sweepable.closed
  rintro _ _ swept - ⟨rfl, final⟩
  refine .read (.step ?_ ?_)
  · intro error failed
    obtain ⟨refused, rfl⟩ := fails_attempt.mp failed
    refine ⟨by simp, fun sweepable => ?_⟩
    refine insert_audit_accepted refused (nextRowId_fresh _) ?_
    rw [final, sweptRows_of_not_mem _ (by decide)]
    exact unrecorded_iff.mp sweepable.unrecorded
  · intro _ after inserted
    obtain ⟨_, result⟩ := Database.insert_eq_some_iff.mp (succeeds_attempt.mp inserted)
    refine Spends.consume.bind_last ?_
    rintro _ _ _ consumed ⟨rfl, rfl⟩
    refine Spends.pure (.of_consume consumed) ⟨⟨fun table different => ?_, markable⟩, rfl⟩
    rw [result, setTable_of_ne _ _ different, final, sweptRows_retentionDeleteOrder]

structure AppliedPlan (digests : RetentionDigests) (policy : GenerationRetentionPolicy)
    (expectedPlan : Bytes32) (before after : Store) (deletedRows : Nat) (plan : RetentionPlan)
    (budget : RetentionWorkBudget) : Prop where
  built : buildRetentionPlanWithBudget digests policy before.rows = .ok (plan, budget)
  expected : plan.planDigest = expectedPlan
  collected : Collected before after plan.candidateGenerations
  deleted : deletedRows = collectedRowCount before.rows plan.candidateGenerations
  charged : ∃ charged,
      budget.releaseReservations.consume (collectionCharge before.rows plan.candidateGenerations) =
        .ok charged

theorem applyGenerationRetention_spends {digests : RetentionDigests}
    {policy : GenerationRetentionPolicy} {plan : RetentionPlan} {expectedPlan : Bytes32}
    (built : buildRetentionPlanWithBudget digests policy before.rows = .ok (plan, budget))
    (unrecorded : loadAppliedRetention before.rows (digests.policy policy) expectedPlan = none) :
    Spends (Sweepable before.rows plan ∧ plan.planDigest = expectedPlan)
      (applyGenerationRetention digests policy expectedPlan) before budget.releaseReservations
      (collectionCharge before.rows plan.candidateGenerations) fun _ outcome after =>
        AppliedPlan digests policy expectedPlan before after outcome.deletedRows plan budget := by
  obtain ⟨planned, _⟩ := planned_of_build built
  have fits : budget.releaseReservations.Fits := by
    have within := planned.fits
    change budget.consumed + 0 ≤ budget.maximum
    omega
  unfold applyGenerationRetention
  refine .read ?_
  simp only [unrecorded]
  refine .step (fun failed => ?_) fun execution => ?_
  · rw [fails_fallible, built] at failed
    cases failed
  obtain ⟨same, rfl⟩ := succeeds_fallible.mp execution
  obtain rfl := Except.ok.inj (built.symm.trans same)
  refine .require (by simp) (fun ⟨_, expected⟩ => by simp [expected]) fun expected => ?_
  refine ((sweepRetentionPlan_spends fits).weaken And.left).bind_last ?_
  rintro _ _ _ charged ⟨collected, counted⟩
  exact Spends.pure (.of_consume charged)
    ⟨built, by simpa using expected, collected, counted, _, charged⟩

/-- A collection is a replay that changes nothing, or it applies the plan the
store yields now. -/
theorem applyGenerationRetention_succeeds {digests : RetentionDigests}
    {policy : GenerationRetentionPolicy} {expectedPlan : Bytes32} {outcome : RetentionApplyOutcome}
    (execution :
      Succeeds (applyGenerationRetention digests policy expectedPlan) before outcome after) :
    (loadAppliedRetention before.rows (digests.policy policy) expectedPlan =
        some outcome ∧ after = before) ∨
      ∃ plan budget,
        AppliedPlan digests policy expectedPlan before after outcome.deletedRows plan budget := by
  cases recorded : loadAppliedRetention before.rows (digests.policy policy) expectedPlan with
  | some replayed =>
    unfold applyGenerationRetention at execution
    obtain ⟨_, _, read, execution⟩ := succeeds_bind.mp execution
    obtain ⟨rfl, rfl⟩ := succeeds_get.mp read
    simp only [recorded] at execution
    obtain ⟨rfl, rfl⟩ := succeeds_pure.mp execution
    exact .inl ⟨rfl, rfl⟩
  | none =>
    cases built : buildRetentionPlanWithBudget digests policy before.rows with
    | ok planned =>
      obtain ⟨_, _, applied⟩ := (applyGenerationRetention_spends built recorded).spent execution
      exact .inr ⟨_, _, applied⟩
    | error error =>
      unfold applyGenerationRetention at execution
      simp [recorded, built] at execution

end Collection

end RepoWitness
