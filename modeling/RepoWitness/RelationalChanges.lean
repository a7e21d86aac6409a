import RepoWitness.RelationalTables
import Mathlib.Logic.Relation

namespace RepoWitness

/-!
# What a statement may change

Rules say which rows a statement may insert, change and delete, seen from the
contents before it.  One statement that keeps to the rules relates the contents
before and after it row by row, and a transaction is a sequence of such
statements, so an invariant that each of them keeps is kept by all of them.
-/

structure ChangeRules {Table : Type} (Row : Table → Type) where
  inserts : TableRows Row → (table : Table) → Row table → Prop
  updates : TableRows Row → (table : Table) → Row table → Row table → Prop
  deletes : TableRows Row → (table : Table) → Row table → Prop

namespace ChangeRules

variable {Table : Type} {Row : Table → Type}

/-- Every difference between the contents is one the rules allow, and only
one table gets other rows than it had. -/
structure Allows (rules : ChangeRules Row) (before after : TableRows Row) : Prop where
  focused : ∃ focus, ∀ table, table ≠ focus → after table ⊆ before table
  origin : ∀ table, ∀ row ∈ after table,
      row ∈ before table ∨ rules.inserts before table row ∨
        ∃ old ∈ before table, rules.updates before table old row
  fate : ∀ table, ∀ row ∈ before table, row ∈ after table ∨
        (∃ new ∈ after table, rules.updates before table row new) ∨
        rules.deletes before table row

variable {Marks : Type} {schema : Schema Row Marks}

/-- A sequence of statements that keep to the rules. -/
def Evolves (rules : ChangeRules Row) (before after : Database schema) : Prop :=
  Relation.ReflTransGen (fun first second : Database schema => rules.Allows first.rows second.rows)
    before after

namespace Evolves

variable {rules : ChangeRules Row} {before middle after : Database schema}

instance : Std.Refl (@Evolves _ _ _ schema rules) where
  refl _ := Relation.ReflTransGen.refl

instance : IsTrans (Database schema) (Evolves rules) where
  trans _ _ _ := Relation.ReflTransGen.trans

theorem of_allows (allowed : rules.Allows before.rows after.rows) : Evolves rules before after :=
  .single allowed

/-- What every allowed statement keeps, a sequence of them keeps. -/
theorem invariant {holds : Database schema → Prop}
    (preserved : ∀ first second : Database schema,
        rules.Allows first.rows second.rows → holds first → holds second)
    (evolves : Evolves rules before after) (initially : holds before) :
    holds after := by
  induction evolves with
  | refl => exact initially
  | tail _ allowed hypothesis => exact preserved _ _ allowed hypothesis

end Evolves

end ChangeRules

namespace Database

variable {Table : Type} {Row : Table → Type} {Marks : Type} {schema : Schema Row Marks}
  [DecidableEq Table] {rules : ChangeRules Row} {before after : Database schema} {table : Table}

theorem insert_allowed {row : Row table} (inserted : before.insert table row = some after)
    (allowed : rules.inserts before.rows table row) :
    rules.Allows before.rows after.rows := by
  obtain ⟨_, result⟩ := insert_eq_some_iff.mp inserted
  rw [result]
  constructor
  · refine ⟨table, fun other different => ?_⟩
    rw [setTable_of_ne _ _ different]
    exact List.Subset.refl _
  · intro other current member
    by_cases same : other = table
    · subst same
      rw [setTable_same, List.mem_append, List.mem_singleton] at member
      rcases member with kept | rfl
      · exact .inl kept
      · exact .inr (.inl allowed)
    · rw [setTable_of_ne _ _ same] at member
      exact .inl member
  · intro other current member
    left
    by_cases same : other = table
    · subst same
      rw [setTable_same]
      exact List.mem_append_left _ member
    · rwa [setTable_of_ne _ _ same]

variable {selects : Row table → Bool} {marks : Marks}

theorem update_allowed {change : Row table → Row table}
    (updated : before.update table selects change = some after)
    (allowed : ∀ row ∈ before.rows table, selects row = true →
        rules.updates before.rows table row (change row)) :
    rules.Allows before.rows after.rows := by
  obtain ⟨_, result⟩ := update_eq_some_iff.mp updated
  rw [result]
  constructor
  · refine ⟨table, fun other different => ?_⟩
    rw [setTable_of_ne _ _ different]
    exact List.Subset.refl _
  · intro other current member
    by_cases same : other = table
    · subst same
      rw [setTable_same] at member
      obtain ⟨old, oldMember, rfl⟩ := List.mem_map.mp member
      split
      next selected => exact .inr (.inr ⟨old, oldMember, allowed old oldMember selected⟩)
      next => exact .inl oldMember
    · rw [setTable_of_ne _ _ same] at member
      exact .inl member
  · intro other current member
    by_cases same : other = table
    · subst same
      rw [setTable_same]
      by_cases selected : selects current = true
      · refine .inr (.inl ⟨change current, ?_, allowed _ member selected⟩)
        exact List.mem_map.mpr ⟨current, member, by simp [selected]⟩
      · refine .inl (List.mem_map.mpr ⟨current, member, ?_⟩)
        simp [selected]
    · left
      rwa [setTable_of_ne _ _ same]

theorem mem_of_mem_delete
    (deleted : before.delete marks table selects = some after) {other : Table} {row : Row other}
    (member : row ∈ after.rows other) :
    row ∈ before.rows other := by
  obtain ⟨_, result⟩ := delete_eq_some_iff.mp deleted
  rw [result] at member
  have left := (schema.cascade_sublist _ other).subset member
  by_cases same : other = table
  · subst same
    rw [setTable_same] at left
    exact List.mem_of_mem_filter left
  · rwa [setTable_of_ne _ _ same] at left

theorem delete_allowed (deleted : before.delete marks table selects = some after)
    (allowed : ∀ row ∈ before.rows table, selects row = true → rules.deletes before.rows table row)
    (cascades : ∀ other, schema.isCascaded other = true →
        ∀ row ∈ before.rows other, rules.deletes before.rows other row) :
    rules.Allows before.rows after.rows := by
  refine ⟨⟨table, fun _ _ _ member => mem_of_mem_delete deleted member⟩,
    fun other row member => .inl (mem_of_mem_delete deleted member), ?_⟩
  obtain ⟨_, result⟩ := delete_eq_some_iff.mp deleted
  intro other row member
  cases cascaded : schema.isCascaded other with
  | true => exact .inr (.inr (cascades other cascaded row member))
  | false =>
    rw [result, schema.cascade_of_not_cascaded cascaded]
    by_cases same : other = table
    · subst same
      rw [setTable_same]
      by_cases selected : selects row = true
      · exact .inr (.inr (allowed row member selected))
      · exact .inl (List.mem_filter.mpr ⟨member, by simp [selected]⟩)
    · rw [setTable_of_ne _ _ same]
      exact .inl member

end Database

end RepoWitness
