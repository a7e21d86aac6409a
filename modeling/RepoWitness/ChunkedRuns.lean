import Mathlib.Data.List.Basic
import RepoWitness.PolledComputation

namespace RepoWitness

/-!
# Loops over aligned runs

Chunked algorithms visit a sequence in consecutive runs of one width, the last
of which may be shorter.  A loop that rewrites every run separately is
described by what it does to one run: it permutes the sequence when it
permutes each run, and run `k` of its output is the rewritten run `k`.
-/

def stepBy (length step : Nat) : List Nat :=
  (List.range ((length + step - 1) / step)).map (· * step)

def forRuns {ε α : Type} (body : Nat → Polled ε (List α)) : List Nat → Polled ε (List α)
  | [] => pure []
  | start :: starts => do
    let written ← body start
    let rest ← forRuns body starts
    pure (written ++ rest)

/-- Rewrite every aligned run of the given width. -/
def mapRuns {α : Type} (width : Nat) (rewrite : List α → List α) (items : List α) : List α :=
  (stepBy items.length width).flatMap fun start => rewrite ((items.drop start).take width)

/-- A loop whose body succeeds everywhere concatenates the written parts. -/
theorem result_forRuns {ε α : Type} {body : Nat → Polled ε (List α)} {written : Nat → List α}
    {starts : List Nat} (succeeds : ∀ start ∈ starts, (body start).result = .ok (written start)) :
    (forRuns body starts).result = .ok (starts.flatMap written) := by
  induction starts with
  | nil => rfl
  | cons start starts hypothesis =>
    have first := succeeds start List.mem_cons_self
    have later :=
      hypothesis fun other member => succeeds other (List.mem_cons_of_mem _ member)
    simp [forRuns, first, later]

variable {step length : Nat}

/-- No run starts in an empty sequence. -/
theorem stepBy_zero (positive : 0 < step) : stepBy 0 step = [] := by
  have none : (0 + step - 1) / step = 0 := Nat.div_eq_of_lt (by omega)
  unfold stepBy
  rw [none]
  rfl

/-- The first run starts at zero; the others are those of the remainder. -/
theorem stepBy_of_pos (positive : 0 < step) (nonempty : 0 < length) :
    stepBy length step = 0 :: (stepBy (length - step) step).map (· + step) := by
  have count : (length + step - 1) / step = (length - step + step - 1) / step + 1 := by
    by_cases short : length ≤ step
    · have remainder : length - step = 0 := by omega
      have one : (length + step - 1) / step = 1 := Nat.div_eq_of_lt_le (by omega) (by omega)
      have zero : (step - 1) / step = 0 := Nat.div_eq_of_lt (by omega)
      simp [remainder, one, zero]
    · have split : length + step - 1 = (length - step + step - 1) + step := by omega
      rw [split, Nat.add_div_right _ positive]
  unfold stepBy
  rw [count, List.range_succ_eq_map]
  simp [Function.comp_def, Nat.succ_mul]

/-- Every run of a nonempty sequence starts inside it. -/
theorem lt_length_of_mem_stepBy {start : Nat} (positive : 0 < step)
    (member : start ∈ stepBy length step) :
    start < length := by
  unfold stepBy at member
  obtain ⟨index, bounded, rfl⟩ := List.mem_map.mp member
  have below := List.mem_range.mp bounded
  have scaled : (index + 1) * step ≤ length + step - 1 := (Nat.le_div_iff_mul_le positive).mp below
  rw [Nat.succ_mul] at scaled
  omega

section MapRuns

variable {α : Type} {width : Nat} {rewrite : List α → List α}

theorem mapRuns_nil (positive : 0 < width) : mapRuns width rewrite [] = [] := by
  simp [mapRuns, stepBy_zero positive]

/-- A nonempty sequence is rewritten run by run from its front. -/
theorem mapRuns_of_ne_nil (positive : 0 < width) {items : List α} (nonempty : items ≠ []) :
    mapRuns width rewrite items =
      rewrite (items.take width) ++ mapRuns width rewrite (items.drop width) := by
  have inhabited : 0 < items.length := List.length_pos_iff.mpr nonempty
  unfold mapRuns
  rw [stepBy_of_pos positive inhabited]
  simp [List.flatMap_map, List.drop_drop, Nat.add_comm]

theorem mapRuns_perm (positive : 0 < width) (permutes : ∀ run, (rewrite run).Perm run)
    (items : List α) :
    (mapRuns width rewrite items).Perm items := by
  induction size : items.length using Nat.strongRecOn generalizing items with
  | ind bound hypothesis =>
    by_cases empty : items = []
    · subst empty
      rw [mapRuns_nil positive]
    · rw [mapRuns_of_ne_nil positive empty]
      have inhabited : 0 < items.length := List.length_pos_iff.mpr empty
      have shorter : (items.drop width).length < bound := by
        rw [List.length_drop]
        omega
      have rest := hypothesis _ shorter (items.drop width) rfl
      calc
        (rewrite (items.take width) ++
            mapRuns width rewrite (items.drop width)).Perm
            (items.take width ++ items.drop width) :=
          (permutes _).append rest
        _ = items := List.take_append_drop width items

/-- Run `k` of the rewritten sequence is the rewritten run `k`. -/
theorem run_mapRuns (positive : 0 < width) (permutes : ∀ run, (rewrite run).Perm run) (index : Nat)
    (items : List α) :
    ((mapRuns width rewrite items).drop (index * width)).take width =
      rewrite ((items.drop (index * width)).take width) := by
  have rewriteNil : rewrite [] = [] := (permutes []).eq_nil
  induction index generalizing items with
  | zero =>
    by_cases empty : items = []
    · subst empty
      simp [mapRuns_nil positive, rewriteNil]
    · rw [mapRuns_of_ne_nil positive empty]
      have firstLength := (permutes (items.take width)).length_eq
      simp only [List.length_take] at firstLength
      simp only [Nat.zero_mul, List.drop_zero]
      by_cases full : width ≤ items.length
      · exact List.take_left' (by omega)
      · have remainder : items.drop width = [] := List.drop_eq_nil_of_le (by omega)
        rw [remainder, mapRuns_nil positive, List.append_nil]
        exact List.take_of_length_le (by omega)
  | succ index hypothesis =>
    have shifted : (index + 1) * width = width + index * width := by
      rw [Nat.succ_mul, Nat.add_comm]
    by_cases empty : items = []
    · subst empty
      simp [mapRuns_nil positive, rewriteNil]
    · rw [mapRuns_of_ne_nil positive empty, shifted, ← List.drop_drop, ← List.drop_drop]
      have firstLength := (permutes (items.take width)).length_eq
      simp only [List.length_take] at firstLength
      by_cases full : width ≤ items.length
      · rw [List.drop_left' (by omega)]
        exact hypothesis (items.drop width)
      · have remainder : items.drop width = [] := List.drop_eq_nil_of_le (by omega)
        have exhausted : (rewrite (items.take width) ++
              mapRuns width rewrite (items.drop width)).drop width = [] := by
          rw [remainder, mapRuns_nil positive, List.append_nil]
          exact List.drop_eq_nil_of_le (by omega)
        rw [exhausted, remainder]
        simp [rewriteNil]

end MapRuns

end RepoWitness
