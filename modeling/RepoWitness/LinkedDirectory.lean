import Mathlib.Algebra.Order.Ring.Nat
import Mathlib.Data.List.Nodup
import Mathlib.Data.List.Perm.Subperm

namespace RepoWitness

/-!
# A directory with hard links

Names of one directory bound to file nodes, with the operations a publisher
uses: exclusive creation, writing through a node, linking under a second name,
atomic renaming and removal.  The link count of a node is the number of names
bound to it.
-/

theorem lookup_eq_some_iff_mem {Key Value : Type} [DecidableEq Key] {entries : List (Key × Value)}
    (distinct : (entries.map Prod.fst).Nodup) (key : Key) (value : Value) :
    entries.lookup key = some value ↔ (key, value) ∈ entries := by
  induction entries with
  | nil => simp
  | cons entry rest hypothesis =>
    obtain ⟨first, bound⟩ := entry
    rw [List.map_cons, List.nodup_cons] at distinct
    by_cases same : key = first
    · subst same
      have elsewhere : (key, value) ∉ rest := fun member =>
        distinct.1 (List.mem_map.mpr ⟨_, member, rfl⟩)
      simp [elsewhere, eq_comm]
    · rw [List.lookup_cons, beq_false_of_ne same]
      simp [same, hypothesis distinct.2]

structure LinkedDirectory (Name Byte : Type) where
  entries : List (Name × Nat)
  content : Nat → List Byte
  next : Nat
  distinct : (entries.map Prod.fst).Nodup
  allocated : ∀ entry ∈ entries, entry.2 < next

inductive DirectoryError where
  | notFound
  | alreadyExists
  deriving DecidableEq

namespace LinkedDirectory

variable {Name Byte : Type}

def empty : LinkedDirectory Name Byte where
  entries := []
  content := fun _ => []
  next := 0
  distinct := List.nodup_nil
  allocated := by simp

def names (directory : LinkedDirectory Name Byte) : List Name := directory.entries.map Prod.fst

def links (directory : LinkedDirectory Name Byte) (node : Nat) : Nat :=
  directory.entries.countP (fun entry => entry.2 == node)

/-- Replace the bytes of one node. -/
def write (directory : LinkedDirectory Name Byte) (node : Nat)
    (bytes : List Byte) : LinkedDirectory Name Byte :=
  { directory with
    content := fun other => if other = node then bytes else directory.content other }

@[simp] theorem write_content_self (directory : LinkedDirectory Name Byte) (node : Nat)
    (bytes : List Byte) :
    (directory.write node bytes).content node = bytes := if_pos rfl

theorem write_content_of_ne (directory : LinkedDirectory Name Byte) {node other : Nat}
    (different : other ≠ node) (bytes : List Byte) :
    (directory.write node bytes).content other = directory.content other := if_neg different

/-- Bind a name that is not in use. -/
def bind (directory : LinkedDirectory Name Byte) (name : Name) (node : Nat)
    (fresh : name ∉ directory.names) (known : node < directory.next) : LinkedDirectory Name Byte :=
  { directory with
    entries := directory.entries ++ [(name, node)]
    distinct := by
      rw [List.map_append, List.nodup_append]
      refine ⟨directory.distinct, List.nodup_singleton name, ?_⟩
      rintro earlier member later atEnd rfl
      rw [List.map_singleton, List.mem_singleton] at atEnd
      subst atEnd
      exact fresh member
    allocated := by
      intro entry member
      rcases List.mem_append.mp member with old | new
      · exact directory.allocated entry old
      · rw [List.mem_singleton.mp new]
        exact known }

variable [DecidableEq Name]

/-- Drop a name, bound or not. -/
def unbind (directory : LinkedDirectory Name Byte) (name : Name) : LinkedDirectory Name Byte :=
  { directory with
    entries := directory.entries.filter (fun entry => entry.1 != name)
    distinct := directory.distinct.sublist (List.filter_sublist.map Prod.fst)
    allocated := fun entry member => directory.allocated entry (List.mem_of_mem_filter member) }

def find (directory : LinkedDirectory Name Byte) (name : Name) : Option Nat :=
  directory.entries.lookup name

/-- The bytes a name leads to. -/
def read (directory : LinkedDirectory Name Byte) (name : Name) : Option (List Byte) :=
  (directory.find name).map directory.content

section Facts

variable (directory : LinkedDirectory Name Byte)

theorem find_eq_some_iff (name : Name) (node : Nat) :
    directory.find name = some node ↔ (name, node) ∈ directory.entries :=
  lookup_eq_some_iff_mem directory.distinct name node

theorem find_eq_none_iff (name : Name) : directory.find name = none ↔ name ∉ directory.names := by
  simp [find, names, List.lookup_eq_none_iff]
  grind

variable {name : Name} {node : Nat} {other : Name}

theorem mem_names_of_find (found : directory.find name = some node) : name ∈ directory.names := by
  by_contra absent
  rw [← find_eq_none_iff, found] at absent
  cases absent

/-- Some order of the names has a given one behind all others. -/
theorem exists_listing_last (named : name ∈ directory.names) : ∃ others, name ∉ others ∧
      others.length + 1 = directory.names.length ∧
      (others ++ [name]).Perm directory.names := by
  have order : (directory.names.erase name ++ [name]).Perm directory.names :=
    List.perm_append_comm.trans (List.perm_cons_erase named).symm
  refine ⟨directory.names.erase name, List.Nodup.not_mem_erase directory.distinct, ?_, order⟩
  rw [← order.length_eq, List.length_append, List.length_singleton]

theorem find_ext {first second : LinkedDirectory Name Byte}
    (same : ∀ node, (name, node) ∈ first.entries ↔ (name, node) ∈ second.entries) :
    first.find name = second.find name := by
  ext node
  rw [find_eq_some_iff, find_eq_some_iff, same]

theorem lt_next_of_find (found : directory.find name = some node) :
    node < directory.next := directory.allocated _ ((directory.find_eq_some_iff name node).mp found)

@[simp] theorem find_write (name : Name) (node : Nat) (bytes : List Byte) :
    (directory.write node bytes).find name = directory.find name := rfl

@[simp] theorem find_bind_self (name : Name) (node : Nat) (fresh : name ∉ directory.names)
    (known : node < directory.next) :
    (directory.bind name node fresh known).find name = some node := by
  rw [find_eq_some_iff]
  exact List.mem_append_right _ (List.mem_singleton.mpr rfl)

theorem find_bind_of_ne (different : other ≠ name) (node : Nat)
    (fresh : name ∉ directory.names) (known : node < directory.next) :
    (directory.bind name node fresh known).find other = directory.find other := by
  refine find_ext fun bound => ?_
  simp [bind, different]

@[simp] theorem find_unbind_self (name : Name) : (directory.unbind name).find name = none := by
  rw [find_eq_none_iff]
  simp [unbind, names]

theorem find_unbind_of_ne (different : other ≠ name) :
    (directory.unbind name).find other = directory.find other := by
  refine find_ext fun bound => ?_
  simp [unbind, different]

/-- A node has one link exactly when no second name leads to it. -/
theorem links_eq_one_iff (found : directory.find name = some node) :
    directory.links node = 1 ↔ ∀ other, directory.find other = some node → other = name := by
  have bound := (directory.find_eq_some_iff name node).mp found
  have kept : (name, node) ∈ directory.entries.filter (fun entry => entry.2 == node) :=
    List.mem_filter.mpr ⟨bound, by simp⟩
  rw [links, List.countP_eq_length_filter]
  constructor
  · intro single other foundOther
    obtain ⟨only, alone⟩ := List.length_eq_one_iff.mp single
    have keptOther : (other, node) ∈ directory.entries.filter (fun entry => entry.2 == node) :=
      List.mem_filter.mpr ⟨(directory.find_eq_some_iff other node).mp foundOther, by simp⟩
    rw [alone, List.mem_singleton] at kept keptOther
    exact congrArg Prod.fst (keptOther.trans kept.symm)
  · intro unique
    have nodup := directory.distinct.of_map.filter (fun entry => entry.2 == node)
    have within : directory.entries.filter (fun entry => entry.2 == node) ⊆ [(name, node)] := by
      rintro ⟨other, otherNode⟩ member
      obtain ⟨inside, same⟩ := List.mem_filter.mp member
      obtain rfl : otherNode = node := by simpa using same
      have isName := unique other ((directory.find_eq_some_iff other _).mpr inside)
      rw [isName]
      exact List.mem_singleton.mpr rfl
    exact Nat.le_antisymm (nodup.subperm within).length_le (List.length_pos_of_mem kept)

end Facts

theorem read_congr {first second : LinkedDirectory Name Byte} {name : Name}
    (sameNode : second.find name = first.find name)
    (sameContent : ∀ node, first.find name = some node → second.content node = first.content node) :
    second.read name = first.read name := by
  rw [read, read, sameNode]
  exact Option.map_congr sameContent

/-! ## System calls -/

/-- Create a name bound to a fresh empty node, unless the name is in use. -/
def createNew (directory : LinkedDirectory Name Byte)
    (name : Name) : Except DirectoryError (LinkedDirectory Name Byte) :=
  if fresh : name ∉ directory.names then
    .ok (LinkedDirectory.bind
        { directory.write directory.next [] with
          next := directory.next + 1
          allocated := fun entry member => Nat.lt_succ_of_lt (directory.allocated entry member) }
        name directory.next fresh (Nat.lt_succ_self _))
  else
    .error .alreadyExists

/-- Bind a second name to the node of an existing one, never replacing. -/
def hardLink (directory : LinkedDirectory Name Byte) (source target : Name) :
    Except DirectoryError (LinkedDirectory Name Byte) :=
  match found : directory.find source with
  | none => .error .notFound
  | some node =>
    if fresh : target ∉ directory.names then
      .ok (directory.bind target node fresh (directory.lt_next_of_find found))
    else
      .error .alreadyExists

/--
Move a name over another, replacing it.  Two names of one node are left as they
are.
-/
def rename (directory : LinkedDirectory Name Byte) (source target : Name) :
    Except DirectoryError (LinkedDirectory Name Byte) :=
  match found : directory.find source with
  | none => .error .notFound
  | some node =>
    if directory.find target = some node then
      .ok directory
    else
      .ok (((directory.unbind source).unbind target).bind target node
          ((find_eq_none_iff _ _).mp (find_unbind_self _ _))
          (directory.lt_next_of_find found))

def removeFile (directory : LinkedDirectory Name Byte)
    (name : Name) : Except DirectoryError (LinkedDirectory Name Byte) :=
  if name ∈ directory.names then
    .ok (directory.unbind name)
  else
    .error .notFound

section Calls

variable {directory after : LinkedDirectory Name Byte} {name source target other : Name}
  {node : Nat}

theorem createNew_eq_ok (created : directory.createNew name = .ok after) :
    directory.find name = none ∧ after.find name = some directory.next ∧
      (∀ other, other ≠ name → after.find other = directory.find other) ∧
      after.content = (directory.write directory.next []).content ∧
      after.names = directory.names ++ [name] := by
  unfold createNew at created
  split at created
  case isTrue fresh =>
      cases created
      refine ⟨(directory.find_eq_none_iff name).mpr fresh, ?_, ?_, rfl, ?_⟩
      · exact find_bind_self _ _ _ _ _
      · intro other different
        exact find_bind_of_ne _ different _ _ _
      · simp [bind, names, write]
  case isFalse => cases created

theorem createNew_eq_error {error : DirectoryError}
    (refused : directory.createNew name = .error error) :
    name ∈ directory.names := by
  unfold createNew at refused
  split at refused
  case isTrue => cases refused
  case isFalse used => exact not_not.mp used

theorem hardLink_eq_ok (found : directory.find source = some node)
    (linked : directory.hardLink source target = .ok after) :
    directory.find target = none ∧ after.find target = some node ∧
      (∀ other, other ≠ target → after.find other = directory.find other) ∧
      after.content = directory.content := by
  unfold hardLink at linked
  split at linked
  case h_1 absent =>
      rw [found] at absent
      cases absent
  case h_2 bound isBound =>
      obtain rfl : node = bound := Option.some.inj (found.symm.trans isBound)
      split at linked
      case isTrue fresh =>
          cases linked
          exact ⟨(directory.find_eq_none_iff target).mpr fresh,
              find_bind_self _ _ _ _ _,
              fun _ different => find_bind_of_ne _ different _ _ _, rfl⟩
      case isFalse => cases linked

theorem rename_eq_ok (found : directory.find source = some node)
    (unlinked : directory.find target ≠ some node)
    (renamed : directory.rename source target = .ok after) :
    after.find target = some node ∧
      (∀ other, other ≠ target → other ≠ source → after.find other = directory.find other) ∧
      after.content = directory.content := by
  unfold rename at renamed
  split at renamed
  case h_1 absent =>
      rw [found] at absent
      cases absent
  case h_2 bound isBound =>
      obtain rfl : node = bound := Option.some.inj (found.symm.trans isBound)
      rw [if_neg unlinked] at renamed
      cases renamed
      refine ⟨find_bind_self _ _ _ _ _, ?_, rfl⟩
      intro other notTarget notSource
      refine (find_bind_of_ne _ notTarget _ _ _).trans ?_
      rw [find_unbind_of_ne _ notTarget, find_unbind_of_ne _ notSource]

theorem rename_isOk (found : directory.find source = some node) :
    ∃ after, directory.rename source target = .ok after := by
  unfold rename
  split
  case h_1 absent =>
      rw [found] at absent
      cases absent
  case h_2 =>
      split
      · exact ⟨_, rfl⟩
      · exact ⟨_, rfl⟩

theorem removeFile_eq_ok (removed : directory.removeFile name = .ok after) :
    after.find name = none ∧
      (∀ other, other ≠ name → after.find other = directory.find other) ∧
      after.content = directory.content := by
  unfold removeFile at removed
  split at removed
  case isTrue =>
      cases removed
      exact ⟨find_unbind_self _ _, fun _ different => find_unbind_of_ne _ different, rfl⟩
  case isFalse => cases removed

end Calls

end LinkedDirectory

end RepoWitness
