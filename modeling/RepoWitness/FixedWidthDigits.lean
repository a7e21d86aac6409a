import Mathlib.Algebra.Order.Ring.Nat
import Mathlib.Data.List.Induction
import Mathlib.Data.List.Lex

namespace RepoWitness

/-!
# Digits of a fixed width

A value below `base ^ width` has exactly one list of `width` digits, the most
significant first, and lists of one width are ordered as their values are.
-/

/-- The `width` lowest digits of a value, the most significant first. -/
def digitsOf (base : Nat) : Nat → Nat → List Nat
  | 0, _ => []
  | width + 1, value => digitsOf base width (value / base) ++ [value % base]

def valueFrom (base read : Nat) (digits : List Nat) : Nat :=
  digits.foldl (fun value digit => value * base + digit) read

variable {base width : Nat}

@[simp] theorem length_digitsOf (value : Nat) : (digitsOf base width value).length = width := by
  induction width generalizing value with
  | zero => rfl
  | succ width hypothesis => simp [digitsOf, hypothesis]

theorem digitsOf_lt (positive : 0 < base) (value : Nat) :
    ∀ digit ∈ digitsOf base width value, digit < base := by
  induction width generalizing value with
  | zero => simp [digitsOf]
  | succ width hypothesis =>
    rw [digitsOf, List.forall_mem_append, List.forall_mem_singleton]
    exact ⟨hypothesis _, Nat.mod_lt _ positive⟩

theorem valueFrom_snoc (read : Nat) (digits : List Nat) (digit : Nat) :
    valueFrom base read (digits ++ [digit]) = valueFrom base read digits * base + digit := by
  simp [valueFrom]

theorem valueFrom_digitsOf {value : Nat} (small : value < base ^ width) :
    valueFrom base 0 (digitsOf base width value) = value := by
  induction width generalizing value with
  | zero =>
    rw [Nat.pow_zero, Nat.lt_one_iff] at small
    exact small.symm
  | succ width hypothesis =>
    rw [digitsOf, valueFrom_snoc, hypothesis, Nat.div_add_mod']
    exact Nat.div_lt_of_lt_mul (by rwa [Nat.pow_succ, Nat.mul_comm] at small)

theorem digitsOf_valueFrom {digits : List Nat} (bounded : ∀ digit ∈ digits, digit < base) :
    digitsOf base digits.length (valueFrom base 0 digits) = digits := by
  induction digits using List.reverseRecOn with
  | nil => rfl
  | append_singleton digits digit hypothesis =>
    rw [List.forall_mem_append, List.forall_mem_singleton] at bounded
    have positive : 0 < base := Nat.zero_lt_of_lt bounded.2
    rw [List.length_append, List.length_singleton, digitsOf, valueFrom_snoc,
      Nat.mul_comm, Nat.mul_add_div positive, Nat.div_eq_of_lt bounded.2, Nat.add_zero,
      Nat.mul_add_mod, Nat.mod_eq_of_lt bounded.2, hypothesis bounded.1]

theorem valueFrom_lt {read : Nat} {digits : List Nat} {bound : Nat} (small : read < bound)
    (bounded : ∀ digit ∈ digits, digit < base) :
    valueFrom base read digits < bound * base ^ digits.length := by
  induction digits generalizing read bound with
  | nil => simpa [valueFrom] using small
  | cons digit rest hypothesis =>
    obtain ⟨here, later⟩ := List.forall_mem_cons.mp bounded
    have next : read * base + digit < bound * base :=
      calc read * base + digit < read * base + base := Nat.add_lt_add_left here _
        _ = (read + 1) * base := (Nat.succ_mul _ _).symm
        _ ≤ bound * base := Nat.mul_le_mul_right _ small
    have whole := hypothesis next later
    rwa [Nat.mul_assoc, ← Nat.pow_succ'] at whole

theorem le_valueFrom (read : Nat) (digits : List Nat) :
    read * base ^ digits.length ≤ valueFrom base read digits := by
  induction digits generalizing read with
  | nil => simp [valueFrom]
  | cons digit rest hypothesis =>
    have whole := hypothesis (read * base + digit)
    refine Nat.le_trans ?_ whole
    rw [List.length_cons, Nat.pow_succ', ← Nat.mul_assoc]
    exact Nat.mul_le_mul_right _ (Nat.le_add_right _ _)

/-- Lists of one length are ordered by their leading parts. -/
theorem append_lt_append {α : Type} [LT α] {first second : List α} (firstLast secondLast : List α)
    (sameLength : first.length = second.length) (less : first < second) :
    first ++ firstLast < second ++ secondLast := by
  induction less with
  | nil => simp at sameLength
  | rel less => exact .rel less
  | cons _ hypothesis =>
    rw [List.length_cons, List.length_cons, Nat.add_right_cancel_iff] at sameLength
    exact .cons (hypothesis sameLength)

/-- A larger value has the larger digits, whatever increasing symbols spell them. -/
theorem map_digitsOf_lt {α : Type} [LT α] {symbol : Nat → α}
    (increasing : ∀ first second, first < second → second < base → symbol first < symbol second)
    (positive : 0 < base) {lower upper : Nat} (less : lower < upper)
    (small : upper < base ^ width) :
    (digitsOf base width lower).map symbol < (digitsOf base width upper).map symbol := by
  induction width generalizing lower upper with
  | zero =>
    rw [Nat.pow_zero] at small
    omega
  | succ width hypothesis =>
    have leadingSmall : upper / base < base ^ width :=
      Nat.div_lt_of_lt_mul (by rwa [Nat.pow_succ, Nat.mul_comm] at small)
    rw [digitsOf, digitsOf, List.map_append, List.map_append]
    rcases Nat.lt_or_eq_of_le (Nat.div_le_div_right (c := base) less.le) with leading | same
    · exact append_lt_append _ _ (by simp) (hypothesis leading leadingSmall)
    · rw [same]
      have lowerParts := Nat.div_add_mod lower base
      have upperParts := Nat.div_add_mod upper base
      rw [same] at lowerParts
      exact List.append_left_lt (.rel (increasing _ _ (by omega) (Nat.mod_lt _ positive)))

end RepoWitness
