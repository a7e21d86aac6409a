import Mathlib.Algebra.Order.Ring.Nat
import Mathlib.Data.List.Infix

namespace RepoWitness

/-!
# Texts and double-colon scopes

A text is the sequence of its Unicode scalar values.  The searches below are
the ones of the standard string library: the last occurrence of a pattern, the
segments between separators, and the scopes met on the way from a qualified
name to its outermost component.
-/

/-- A text as the sequence of its Unicode scalar values. -/
abbrev Text := List Char

namespace Text

/-- `str::len`: the number of UTF-8 bytes. -/
def byteLength (text : Text) : Nat := (text.map Char.utf8Size).sum

variable {text pattern : Text}

theorem byteLength_pos (nonempty : text ≠ []) : 0 < byteLength text := by
  cases text with
  | nil => exact absurd rfl nonempty
  | cons first rest =>
    have positive := first.utf8Size_pos
    simp only [byteLength, List.map_cons, List.sum_cons]
    omega

/-- `char::is_whitespace`: the Unicode `White_Space` property. -/
def isWhitespace (character : Char) : Bool :=
  let scalar := character.toNat
  decide (9 ≤ scalar ∧ scalar ≤ 13) || scalar == 0x20 || scalar == 0x85 ||
    scalar == 0xA0 || scalar == 0x1680 ||
    decide (0x2000 ≤ scalar ∧ scalar ≤ 0x200A) || scalar == 0x2028 ||
    scalar == 0x2029 || scalar == 0x202F || scalar == 0x205F ||
    scalar == 0x3000

/-- `u8::is_ascii_whitespace`, which leaves out the vertical tab. -/
def isAsciiWhitespace (character : Char) : Bool :=
  [0x20, 0x09, 0x0A, 0x0C, 0x0D].contains character.toNat

/-- `str::split_ascii_whitespace`: the maximal runs of other characters. -/
def splitAsciiWhitespace (text : Text) : List Text :=
  (text.splitOnP isAsciiWhitespace).filter (fun field => !field.isEmpty)

def stripPrefix (pattern text : Text) : Option Text :=
  if pattern.isPrefixOf text then
    some (text.drop pattern.length)
  else
    none

theorem stripPrefix_eq_some_iff {rest : Text} :
    stripPrefix pattern text = some rest ↔ text = pattern ++ rest := by
  unfold stripPrefix
  by_cases starts : pattern <+: text
  · obtain ⟨following, rfl⟩ := starts
    simp
  · have absent : pattern.isPrefixOf text = false := by
      rw [Bool.eq_false_iff]
      simpa using starts
    simp only [absent, Bool.false_eq_true, if_false, reduceCtorEq, false_iff]
    rintro rfl
    exact starts (List.prefix_append pattern rest)

def stripSuffix (pattern text : Text) : Option Text :=
  if pattern.isSuffixOf text then
    some (text.take (text.length - pattern.length))
  else
    none

/--
`str::rsplit_once`: the texts around the last occurrence of a nonempty
pattern.
-/
def rsplitOnce (pattern : Text) : Text → Option (Text × Text)
  | [] => none
  | first :: rest =>
    match rsplitOnce pattern rest with
    | some (before, after) => some (first :: before, after)
    | none => (stripPrefix pattern (first :: rest)).map fun after => ([], after)

theorem rsplitOnce_eq_some {before after : Text}
    (found : rsplitOnce pattern text = some (before, after)) :
    text = before ++ (pattern ++ after) := by
  induction text generalizing before after with
  | nil => cases found
  | cons first rest hypothesis =>
    unfold rsplitOnce at found
    cases later : rsplitOnce pattern rest with
    | some halves =>
      obtain ⟨restBefore, restAfter⟩ := halves
      simp only [later, Option.some.injEq, Prod.mk.injEq] at found
      obtain ⟨rfl, rfl⟩ := found
      rw [hypothesis later, List.cons_append]
    | none =>
      simp only [later, Option.map_eq_some_iff, Prod.mk.injEq] at found
      obtain ⟨stripped, starts, rfl, rfl⟩ := found
      rw [List.nil_append]
      exact stripPrefix_eq_some_iff.mp starts

theorem rsplitOnce_isSome_iff (nonempty : pattern ≠ []) (text : Text) :
    (rsplitOnce pattern text).isSome = true ↔ pattern <:+: text := by
  constructor
  · intro found
    obtain ⟨⟨before, after⟩, isFound⟩ := Option.isSome_iff_exists.mp found
    refine ⟨before, after, ?_⟩
    rw [List.append_assoc, ← rsplitOnce_eq_some isFound]
  · intro occurs
    induction text with
    | nil => exact absurd (List.infix_nil.mp occurs) nonempty
    | cons first rest hypothesis =>
      unfold rsplitOnce
      cases later : rsplitOnce pattern rest with
      | some halves => rfl
      | none =>
        rcases List.infix_cons_iff.mp occurs with starts | inside
        · obtain ⟨after, split⟩ := starts
          simp [stripPrefix_eq_some_iff.mpr split.symm]
        · simpa [later] using hypothesis inside

/-! ## Scopes -/

/-- The separator between the components of a qualified name. -/
def separator : Text := [':', ':']

def containsSeparator (text : Text) : Bool := (rsplitOnce separator text).isSome

theorem containsSeparator_iff (text : Text) : containsSeparator text = true ↔ separator <:+: text :=
  rsplitOnce_isSome_iff (by decide) text

def splitSegments : Text → List Text
  | [] => [[]]
  | ':' :: ':' :: rest => [] :: splitSegments rest
  | first :: rest =>
    match splitSegments rest with
    | [] => [[first]]
    | segment :: others => (first :: segment) :: others

/-- `text.rsplit("::").next()`. -/
def lastSegment (text : Text) : Text :=
  match rsplitOnce separator text with
  | some (_, last) => last
  | none => text

/-- `text.rsplit_once("::").map(|(parent, _)| parent)`. -/
def parentScope (scope : Text) : Option Text := (rsplitOnce separator scope).map Prod.fst

/-- The scopes a loop visits that starts at `scope` and moves to the parent. -/
def scopesWithin : Nat → Text → List Text
  | 0, scope => [scope]
  | fuel + 1, scope =>
    scope ::
      match parentScope scope with
      | none => []
      | some parent => scopesWithin fuel parent

/-- The scope itself and the scopes around it, nearest first. -/
def enclosingScopes (scope : Text) : List Text := scopesWithin scope.length scope

/-- The scopes strictly around a scope, nearest first. -/
def outerScopes (scope : Text) : List Text :=
  match parentScope scope with
  | none => []
  | some parent => enclosingScopes parent

end Text

end RepoWitness
