import Mathlib.Algebra.Order.Ring.Nat
import Mathlib.Logic.Function.Basic
import Mathlib.Data.List.Nodup

namespace RepoWitness

/-!
# Tables under declared constraints

A relational store holds a list of typed rows for every table.  A schema
declares foreign keys, unique keys and row guards; a database carries the proof
that its keys hold, so a statement that would break one has no result.  Row
guards see the contents before the statement, as triggers that fire before a
row changes do.  A delete also sees the marks that may authorize it.
-/

section Contents

variable {Table : Type} {Row : Table → Type}

/-- Contents of every table. -/
abbrev TableRows (Row : Table → Type) : Type := (table : Table) → List (Row table)

variable [DecidableEq Table]

/-- Replace the contents of one table. -/
def setTable (rows : TableRows Row) (table : Table) (contents : List (Row table)) : TableRows Row :=
  Function.update rows table contents

@[simp] theorem setTable_same (rows : TableRows Row) (table : Table) (contents : List (Row table)) :
    setTable rows table contents table = contents := by
  simp [setTable]

@[simp] theorem setTable_of_ne (rows : TableRows Row) {table other : Table}
    (contents : List (Row table)) (different : other ≠ table) :
    setTable rows table contents other = rows other := by
  simp [setTable, different]

end Contents

/-- A reference from the rows of one table to the rows of another. -/
structure ForeignKey {Table : Type} (Row : Table → Type) where
  child : Table
  parent : Table
  Key : Type
  [keyDecidable : DecidableEq Key]
  /-- The referenced key, or `none` where the columns are null. -/
  childKey : Row child → Option Key
  parentKey : Row parent → Key
  /-- Whether a deleted parent takes its children with it. -/
  cascades : Bool := false

/-- Columns that identify at most one row of a table. -/
structure UniqueKey {Table : Type} (Row : Table → Type) where
  table : Table
  Key : Type
  [keyDecidable : DecidableEq Key]
  /-- The indexed key, or `none` where the index leaves the row out. -/
  key : Row table → Option Key

namespace ForeignKey

variable {Table : Type} {Row : Table → Type}

/-- The child row names the parent row. -/
def References (reference : ForeignKey Row) (childRow : Row reference.child)
    (parentRow : Row reference.parent) : Prop :=
  reference.childKey childRow = some (reference.parentKey parentRow)

/-- A child row names nothing, or a row that is present. -/
def Resolved (reference : ForeignKey Row) (rows : TableRows Row)
    (childRow : Row reference.child) : Prop :=
  reference.childKey childRow = none ∨
    ∃ parentRow ∈ rows reference.parent, reference.References childRow parentRow

/-- Every child row is resolved. -/
def Holds (reference : ForeignKey Row) (rows : TableRows Row) : Prop :=
  ∀ childRow ∈ rows reference.child, reference.Resolved rows childRow

instance (reference : ForeignKey Row) (childRow : Row reference.child)
    (parentRow : Row reference.parent) :
    Decidable (reference.References childRow parentRow) :=
  letI := reference.keyDecidable
  inferInstanceAs (Decidable (reference.childKey childRow = some (reference.parentKey parentRow)))

instance (reference : ForeignKey Row) (rows : TableRows Row) (childRow : Row reference.child) :
    Decidable (reference.Resolved rows childRow) := inferInstanceAs (Decidable (_ = none ∨ _))

instance (reference : ForeignKey Row) (rows : TableRows Row) : Decidable (reference.Holds rows) :=
  inferInstanceAs (Decidable (∀ childRow ∈ rows reference.child, _))

/-- A reference sees only its own two tables. -/
theorem Holds.congr {reference : ForeignKey Row} {before after : TableRows Row}
    (holds : reference.Holds before) (sameChild : after reference.child = before reference.child)
    (sameParent : after reference.parent = before reference.parent) :
    reference.Holds after := by
  unfold Holds Resolved
  rw [sameChild, sameParent]
  exact holds

end ForeignKey

namespace UniqueKey

variable {Table : Type} {Row : Table → Type}

/-- No two rows share an indexed key. -/
def Holds (unique : UniqueKey Row) (rows : TableRows Row) : Prop :=
  ((rows unique.table).filterMap unique.key).Nodup

instance (unique : UniqueKey Row) (rows : TableRows Row) : Decidable (unique.Holds rows) :=
  letI := unique.keyDecidable
  inferInstanceAs (Decidable (List.Nodup _))

variable {unique : UniqueKey Row} {before after : TableRows Row}

/-- A unique key sees only its own table. -/
theorem Holds.congr
    (holds : unique.Holds before) (same : after unique.table = before unique.table) :
    unique.Holds after := by
  unfold Holds
  rw [same]
  exact holds

/-- Fewer rows share fewer keys. -/
theorem Holds.sublist
    (holds : unique.Holds before) (fewer : (after unique.table).Sublist (before unique.table)) :
    unique.Holds after := List.Nodup.sublist (fewer.filterMap unique.key) holds

theorem Holds.eq_of_key {rows : TableRows Row} (holds : unique.Holds rows)
    {first second : Row unique.table} {value : unique.Key} (firstMember : first ∈ rows unique.table)
    (secondMember : second ∈ rows unique.table) (firstKey : unique.key first = some value)
    (secondKey : unique.key second = some value) :
    first = second := by
  unfold Holds at holds
  generalize rows unique.table = contents at holds firstMember secondMember
  induction contents with
  | nil => simp at firstMember
  | cons head tail hypothesis =>
    have absent : ∀ row ∈ tail, unique.key head = some value → unique.key row ≠ some value := by
      intro row rowMember headKey rowKey
      rw [List.filterMap_cons_some headKey, List.nodup_cons] at holds
      exact holds.1 (List.mem_filterMap.mpr ⟨row, rowMember, rowKey⟩)
    rcases List.mem_cons.mp firstMember with rfl | firstTail
    · rcases List.mem_cons.mp secondMember with rfl | secondTail
      · rfl
      · exact (absent second secondTail firstKey secondKey).elim
    · rcases List.mem_cons.mp secondMember with rfl | secondTail
      · exact (absent first firstTail secondKey firstKey).elim
      · refine hypothesis ?_ firstTail secondTail
        rw [List.filterMap_cons] at holds
        split at holds
        · exact holds
        · exact (List.nodup_cons.mp holds).2

end UniqueKey

structure Schema {Table : Type} (Row : Table → Type) (Marks : Type) where
  foreignKeys : List (ForeignKey Row)
  uniqueKeys : List (UniqueKey Row)
  insertGuard : TableRows Row → (table : Table) → Row table → Bool
  updateGuard : TableRows Row → (table : Table) → Row table → Row table → Bool
  deleteGuard : Marks → TableRows Row → (table : Table) → Row table → Bool

namespace Schema

variable {Table : Type} {Row : Table → Type} {Marks : Type}

/-- Every declared key holds. -/
def Consistent (schema : Schema Row Marks) (rows : TableRows Row) : Prop :=
  (∀ reference ∈ schema.foreignKeys, reference.Holds rows) ∧
    ∀ unique ∈ schema.uniqueKeys, unique.Holds rows

instance (schema : Schema Row Marks) (rows : TableRows Row) : Decidable (schema.Consistent rows) :=
  inferInstanceAs (Decidable (_ ∧ _))

/-- Every declared key over one of the changed tables holds. -/
def ConsistentAround (schema : Schema Row Marks) (changed : Table → Bool)
    (rows : TableRows Row) : Prop :=
  (∀ reference ∈ schema.foreignKeys,
    (changed reference.child || changed reference.parent) = true → reference.Holds rows) ∧
    ∀ unique ∈ schema.uniqueKeys, changed unique.table = true → unique.Holds rows

instance (schema : Schema Row Marks) (changed : Table → Bool) (rows : TableRows Row) :
    Decidable (schema.ConsistentAround changed rows) := inferInstanceAs (Decidable (_ ∧ _))

variable {schema : Schema Row Marks} {rows : TableRows Row}

/-- A key over unchanged tables still holds. -/
theorem Consistent.of_around {changed : Table → Bool}
    {before after : TableRows Row} (consistent : schema.Consistent before)
    (unchanged : ∀ table, changed table = false → after table = before table)
    (around : schema.ConsistentAround changed after) :
    schema.Consistent after := by
  constructor
  · intro reference declared
    cases touched : changed reference.child || changed reference.parent with
    | true => exact around.1 reference declared touched
    | false =>
      rw [Bool.or_eq_false_iff] at touched
      exact (consistent.1 reference declared).congr (unchanged _ touched.1) (unchanged _ touched.2)
  · intro unique declared
    cases touched : changed unique.table with
    | true => exact around.2 unique declared touched
    | false => exact (consistent.2 unique declared).congr (unchanged _ touched)

theorem Consistent.around (consistent : schema.Consistent rows) (changed : Table → Bool) :
    schema.ConsistentAround changed rows :=
  ⟨fun reference declared _ => consistent.1 reference declared,
    fun unique declared _ => consistent.2 unique declared⟩

variable [DecidableEq Table]

/-- Drop the children of missing parents along one cascading reference. -/
def cascadeAlong (rows : TableRows Row) (reference : ForeignKey Row) : TableRows Row :=
  if reference.cascades then
    setTable rows reference.child
      ((rows reference.child).filter fun childRow => reference.Resolved rows childRow)
  else
    rows

/-- Follow the cascading references in the order the schema lists them. -/
def cascade (schema : Schema Row Marks) (rows : TableRows Row) : TableRows Row :=
  schema.foreignKeys.foldl cascadeAlong rows

/-- Some cascading reference may delete rows of the table. -/
def isCascaded (schema : Schema Row Marks) (table : Table) : Bool :=
  schema.foreignKeys.any fun reference => reference.cascades && reference.child == table

theorem cascadeAlong_of_holds {reference : ForeignKey Row} (holds : reference.Holds rows) :
    cascadeAlong rows reference = rows := by
  unfold cascadeAlong
  split
  · have kept :
        (rows reference.child).filter (fun childRow => reference.Resolved rows childRow) =
          rows reference.child :=
      List.filter_eq_self.mpr fun childRow member => by simpa using holds childRow member
    rw [kept]
    exact Function.update_eq_self reference.child rows
  · rfl

theorem cascade_of_holds
    (holds : ∀ reference ∈ schema.foreignKeys, reference.cascades = true → reference.Holds rows) :
    schema.cascade rows = rows := by
  unfold cascade
  generalize schema.foreignKeys = references at holds
  induction references with
  | nil => rfl
  | cons reference rest hypothesis =>
    have along : cascadeAlong rows reference = rows := by
      cases cascades : reference.cascades with
      | false => simp [cascadeAlong, cascades]
      | true => exact cascadeAlong_of_holds (holds reference (by simp) cascades)
    rw [List.foldl_cons, along]
    exact hypothesis fun other member =>
      holds other (List.mem_cons_of_mem reference member)

/-- A cascade only deletes. -/
theorem cascade_sublist (schema : Schema Row Marks) (rows : TableRows Row) (table : Table) :
    (schema.cascade rows table).Sublist (rows table) := by
  unfold cascade
  generalize schema.foreignKeys = references
  induction references generalizing rows with
  | nil => exact .refl _
  | cons reference rest hypothesis =>
    refine (hypothesis (cascadeAlong rows reference)).trans ?_
    unfold cascadeAlong
    split
    · by_cases same : table = reference.child
      · subst same
        rw [setTable_same]
        exact List.filter_sublist
      · rw [setTable_of_ne _ _ same]
    · exact .refl _

theorem cascade_of_not_cascaded (schema : Schema Row Marks) {table : Table}
    (notCascaded : schema.isCascaded table = false) (rows : TableRows Row) :
    schema.cascade rows table = rows table := by
  unfold isCascaded at notCascaded
  unfold cascade
  generalize schema.foreignKeys = references at notCascaded
  induction references generalizing rows with
  | nil => rfl
  | cons reference rest hypothesis =>
    rw [List.any_cons, Bool.or_eq_false_iff] at notCascaded
    rw [List.foldl_cons, hypothesis _ notCascaded.2]
    unfold cascadeAlong
    split
    next cascades =>
      have different : table ≠ reference.child := by
        rintro rfl
        simp [cascades] at notCascaded
      exact setTable_of_ne _ _ different
    next => rfl

end Schema

/-- Contents whose declared keys hold. -/
structure Database {Table : Type} {Row : Table → Type} {Marks : Type}
    (schema : Schema Row Marks) where
  rows : TableRows Row
  consistent : schema.Consistent rows

namespace Database

variable {Table : Type} {Row : Table → Type} {Marks : Type} {schema : Schema Row Marks}

theorem resolved (database : Database schema) {reference : ForeignKey Row}
    (declared : reference ∈ schema.foreignKeys) {childRow : Row reference.child}
    (member : childRow ∈ database.rows reference.child) {value : reference.Key}
    (named : reference.childKey childRow = some value) :
    ∃ parentRow ∈ database.rows reference.parent, reference.parentKey parentRow = value := by
  rcases database.consistent.1 reference declared childRow member with
    absent | ⟨parentRow, parentMember, references⟩
  · rw [named] at absent
    cases absent
  · refine ⟨parentRow, parentMember, ?_⟩
    rw [ForeignKey.References, named] at references
    exact (Option.some.inj references).symm

theorem eq_of_key (database : Database schema) {unique : UniqueKey Row}
    (declared : unique ∈ schema.uniqueKeys) {first second : Row unique.table} {value : unique.Key}
    (firstMember : first ∈ database.rows unique.table)
    (secondMember : second ∈ database.rows unique.table) (firstKey : unique.key first = some value)
    (secondKey : unique.key second = some value) :
    first = second :=
  (database.consistent.2 unique declared).eq_of_key firstMember secondMember firstKey secondKey

/-- Accept changed contents whose declared keys hold. -/
def commit (database : Database schema) (changed : Table → Bool) (rows : TableRows Row)
    (unchanged : ∀ table, changed table = false → rows table = database.rows table) :
    Option (Database schema) :=
  if around : schema.ConsistentAround changed rows then
    some
      { rows
        consistent := database.consistent.of_around unchanged around }
  else
    none

theorem commit_eq_some_iff {before after : Database schema} {changed : Table → Bool}
    {rows : TableRows Row}
    {unchanged : ∀ table, changed table = false → rows table = before.rows table} :
    before.commit changed rows unchanged = some after ↔ after.rows = rows := by
  unfold commit
  constructor
  · intro committed
    split at committed
    · cases committed
      rfl
    · cases committed
  · rintro rfl
    rw [dif_pos (after.consistent.around changed)]

variable [DecidableEq Table]

/-- Insert one row. -/
def insert (database : Database schema) (table : Table)
    (row : Row table) : Option (Database schema) :=
  if schema.insertGuard database.rows table row then
    database.commit (· == table) (setTable database.rows table (database.rows table ++ [row]))
      (fun other different => setTable_of_ne _ _ (by simpa using different))
  else
    none

def update (database : Database schema) (table : Table) (selects : Row table → Bool)
    (change : Row table → Row table) : Option (Database schema) :=
  if (database.rows table).all fun row =>
      !selects row || schema.updateGuard database.rows table row (change row) then
    database.commit (· == table) (setTable database.rows table
        ((database.rows table).map fun row => if selects row then change row else row))
      (fun other different => setTable_of_ne _ _ (by simpa using different))
  else
    none

def delete (database : Database schema) (marks : Marks) (table : Table)
    (selects : Row table → Bool) : Option (Database schema) :=
  if (database.rows table).all fun row =>
      !selects row || schema.deleteGuard marks database.rows table row then
    database.commit (fun other => other == table || schema.isCascaded other)
      (schema.cascade
        (setTable database.rows table ((database.rows table).filter fun row => !selects row)))
      (by
        intro other different
        rw [Bool.or_eq_false_iff] at different
        rw [schema.cascade_of_not_cascaded different.2]
        exact setTable_of_ne _ _ (by simpa using different.1))
  else
    none

section Inversion

variable {before after : Database schema} {table : Table}

theorem insert_eq_some_iff {row : Row table} :
    before.insert table row = some after ↔
      schema.insertGuard before.rows table row = true ∧
        after.rows = setTable before.rows table (before.rows table ++ [row]) := by
  unfold insert
  split
  next passes => simp [passes, commit_eq_some_iff]
  next fails => simp [fails]

variable {selects : Row table → Bool}

theorem update_eq_some_iff {change : Row table → Row table} :
    before.update table selects change = some after ↔
      (∀ row ∈ before.rows table, selects row = true →
        schema.updateGuard before.rows table row (change row) = true) ∧
      after.rows = setTable before.rows table
          ((before.rows table).map fun row => if selects row then change row else row) := by
  have guarded :
      ((before.rows table).all fun row =>
          !selects row || schema.updateGuard before.rows table row (change row)) = true ↔
        ∀ row ∈ before.rows table, selects row = true →
          schema.updateGuard before.rows table row (change row) = true := by
    simp [List.all_eq_true, or_iff_not_imp_left]
  unfold update
  rw [← guarded]
  split
  next passes => simp [passes, commit_eq_some_iff]
  next fails => simp [fails]

theorem delete_eq_some_iff {marks : Marks} : before.delete marks table selects = some after ↔
      (∀ row ∈ before.rows table, selects row = true →
        schema.deleteGuard marks before.rows table row = true) ∧
      after.rows = schema.cascade
          (setTable before.rows table ((before.rows table).filter fun row => !selects row)) := by
  have guarded :
      ((before.rows table).all fun row =>
          !selects row || schema.deleteGuard marks before.rows table row) = true ↔
        ∀ row ∈ before.rows table, selects row = true →
          schema.deleteGuard marks before.rows table row = true := by
    simp [List.all_eq_true, or_iff_not_imp_left]
  unfold delete
  rw [← guarded]
  split
  next passes => simp [passes, commit_eq_some_iff]
  next fails => simp [fails]

end Inversion

end Database

end RepoWitness
