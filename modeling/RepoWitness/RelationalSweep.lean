import RepoWitness.RelationalTables

namespace RepoWitness

/-!
# Deleting from the tables in turn

A sweep deletes the doomed rows of one table after another, from the tables
that refer to the tables they refer to.  It is accepted when no row that stays
names a doomed one, and then leaves exactly the rows that are not doomed.
-/

section SweptRows

variable {Table : Type} {Row : Table → Type} [DecidableEq Table]
  (doomed : (table : Table) → Row table → Bool)

def sweptRows (swept : List Table) (rows : TableRows Row) : TableRows Row := fun table =>
  if table ∈ swept then
    (rows table).filter fun row => !doomed table row
  else
    rows table

variable {doomed}

variable {swept : List Table}

theorem mem_sweptRows {rows : TableRows Row} {table : Table} {row : Row table} :
    row ∈ sweptRows doomed swept rows table ↔
      row ∈ rows table ∧ (table ∈ swept → doomed table row = false) := by
  unfold sweptRows
  split
  next listed => simp [listed]
  next unlisted => simp [unlisted]

theorem sweptRows_of_not_mem (rows : TableRows Row) {table : Table} (unlisted : table ∉ swept) :
    sweptRows doomed swept rows table = rows table := by
  simp [sweptRows, unlisted]

theorem sweptRows_sublist (swept : List Table) (rows : TableRows Row) (table : Table) :
    (sweptRows doomed swept rows table).Sublist (rows table) := by
  unfold sweptRows
  split
  · exact List.filter_sublist
  · exact .refl _

/-- Sweeping one more table. -/
theorem setTable_sweptRows (swept : List Table) (rows : TableRows Row) (table : Table) :
    setTable (sweptRows doomed swept rows) table
        ((sweptRows doomed swept rows table).filter fun row => !doomed table row) =
      sweptRows doomed (swept ++ [table]) rows := by
  funext other
  by_cases same : other = table
  · subst same
    rw [setTable_same]
    by_cases listed : other ∈ swept <;> simp [sweptRows, listed]
  · rw [setTable_of_ne _ _ same]
    simp [sweptRows, same]

end SweptRows

namespace ForeignKey

variable {Table : Type} {Row : Table → Type} [DecidableEq Table]

/-- Only doomed rows name doomed rows. -/
def Closed (reference : ForeignKey Row) (doomed : (table : Table) → Row table → Bool)
    (rows : TableRows Row) : Prop :=
  ∀ childRow ∈ rows reference.child, ∀ parentRow ∈ rows reference.parent,
      reference.References childRow parentRow →
        doomed reference.parent parentRow = true → doomed reference.child childRow = true

def ChildFirst (reference : ForeignKey Row) (order : List Table) : Prop :=
  reference.parent ∈ order → reference.child ∈ order →
    order.idxOf reference.child ≤ order.idxOf reference.parent

instance (reference : ForeignKey Row) (order : List Table) :
    Decidable (reference.ChildFirst order) := inferInstanceAs (Decidable (_ → _ → _))

theorem ChildFirst.child_mem {reference : ForeignKey Row} {order swept rest : List Table}
    (childFirst : reference.ChildFirst order) (shape : order = swept ++ rest)
    (parentSwept : reference.parent ∈ swept) (childListed : reference.child ∈ order) :
    reference.child ∈ swept := by
  subst shape
  by_contra childUnswept
  have sooner := childFirst (List.mem_append_left rest parentSwept) childListed
  have parentIndex := List.idxOf_lt_length_of_mem parentSwept
  rw [List.idxOf_append_of_mem parentSwept, List.idxOf_append_of_notMem childUnswept] at sooner
  omega

theorem Holds.swept {reference : ForeignKey Row} {doomed : (table : Table) → Row table → Bool}
    {order swept rest : List Table} {rows : TableRows Row} (holds : reference.Holds rows)
    (closed : reference.Closed doomed rows) (childFirst : reference.ChildFirst order)
    (shape : order = swept ++ rest)
    (listed : ∀ row, doomed reference.child row = true → reference.child ∈ order) :
    reference.Holds (sweptRows doomed swept rows) := by
  intro childRow childMember
  rw [mem_sweptRows] at childMember
  obtain ⟨childPresent, childKept⟩ := childMember
  rcases holds childRow childPresent with absent | ⟨parentRow, parentPresent, references⟩
  · exact .inl absent
  · refine .inr ⟨parentRow, mem_sweptRows.mpr ⟨parentPresent, ?_⟩, references⟩
    intro parentSwept
    by_contra parentDoomed
    have childDoomed :=
      closed childRow childPresent parentRow parentPresent references (by simpa using parentDoomed)
    have childSwept := childFirst.child_mem shape parentSwept (listed childRow childDoomed)
    rw [childKept childSwept] at childDoomed
    cases childDoomed

end ForeignKey

namespace Database

variable {Table : Type} {Row : Table → Type} {Marks : Type} {schema : Schema Row Marks}
  [DecidableEq Table] {doomed : (table : Table) → Row table → Bool} {base : Database schema}
  {order swept rest : List Table}

/-- A stage of a sweep leaves the doomed rows out, with nothing to cascade. -/
theorem delete_rows_of_swept {marks : Marks} {before after : Database schema} {table : Table}
    (stage : before.rows = sweptRows doomed swept base.rows)
    (deleted : before.delete marks table (doomed table) = some after)
    (shape : order = swept ++ table :: rest)
    (childFirst : ∀ reference ∈ schema.foreignKeys, reference.ChildFirst order)
    (listed : ∀ other row, doomed other row = true → other ∈ order)
    (cascadesClosed :
      ∀ reference ∈ schema.foreignKeys, reference.cascades = true →
        reference.Closed doomed base.rows) :
    after.rows = sweptRows doomed (swept ++ [table]) base.rows := by
  obtain ⟨_, result⟩ := delete_eq_some_iff.mp deleted
  rw [result, stage, setTable_sweptRows]
  have nextShape : order = (swept ++ [table]) ++ rest := by simp [shape]
  exact Schema.cascade_of_holds fun reference declared cascades =>
    (base.consistent.1 reference declared).swept (cascadesClosed reference declared cascades)
      (childFirst reference declared) nextShape (listed reference.child)

/-- Every stage of a sweep is consistent when only doomed rows name doomed
rows. -/
theorem consistent_of_swept (base : Database schema) (shape : order = swept ++ rest)
    (childFirst : ∀ reference ∈ schema.foreignKeys, reference.ChildFirst order)
    (listed : ∀ other row, doomed other row = true → other ∈ order)
    (closed : ∀ reference ∈ schema.foreignKeys, reference.Closed doomed base.rows) :
    schema.Consistent (sweptRows doomed swept base.rows) := by
  constructor
  · intro reference declared
    exact (base.consistent.1 reference declared).swept
      (closed reference declared) (childFirst reference declared)
      shape (listed reference.child)
  · intro unique declared
    exact (base.consistent.2 unique declared).sublist (sweptRows_sublist _ _ _)

theorem delete_accepted_of_swept {marks : Marks} {before : Database schema} {table : Table}
    (stage : before.rows = sweptRows doomed swept base.rows)
    (guarded :
      ∀ row, doomed table row = true → schema.deleteGuard marks before.rows table row = true)
    (shape : order = swept ++ table :: rest)
    (childFirst : ∀ reference ∈ schema.foreignKeys, reference.ChildFirst order)
    (listed : ∀ other row, doomed other row = true → other ∈ order)
    (closed : ∀ reference ∈ schema.foreignKeys, reference.Closed doomed base.rows) :
    ∃ after, before.delete marks table (doomed table) = some after := by
  have nextShape : order = (swept ++ [table]) ++ rest := by simp [shape]
  have consistent := consistent_of_swept base nextShape childFirst listed closed
  refine ⟨⟨_, consistent⟩, delete_eq_some_iff.mpr
    ⟨fun row _ rowDoomed => guarded row rowDoomed, ?_⟩⟩
  rw [stage, setTable_sweptRows]
  exact (Schema.cascade_of_holds fun reference declared _ => consistent.1 reference declared).symm

end Database

end RepoWitness
