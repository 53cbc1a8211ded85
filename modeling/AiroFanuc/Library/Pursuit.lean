import AiroFanuc.Library.Numerals
import Mathlib.Algebra.Order.Archimedean.Basic
import Mathlib.Algebra.Order.Field.Basic
import Mathlib.Algebra.Order.Floor.Semiring
import Mathlib.Data.Nat.Cast.Order.Field
import Mathlib.Logic.Function.Iterate
import Mathlib.Order.Interval.Set.UnorderedInterval
import Mathlib.Tactic.FieldSimp
import Mathlib.Tactic.Linarith
import Mathlib.Tactic.Positivity

/-! A point that pursues a goal by bounded steps, and a distance that shrinks by a full step
until it is inside a band around the goal. -/

namespace AiroFanuc.Library

variable {R : Type} [Field R] [LinearOrder R] [IsStrictOrderedRing R]

/-- One step towards the goal, and no further. -/
def stepTowards (step here goal : R) : R := here + max (-step) (min step (goal - here))

section Step

variable {step here goal : R}

theorem stepTowards_length (nonneg : 0 ≤ step) : |stepTowards step here goal - here| ≤ step := by
  rw [stepTowards, add_sub_cancel_left]
  apply abs_le.mpr
  constructor
  · exact le_max_left _ _
  · exact max_le (by linarith) (min_le_left _ _)

theorem stepTowards_mem (nonneg : 0 ≤ step) : stepTowards step here goal ∈ Set.uIcc here goal := by
  rw [stepTowards]
  rcases le_total here goal with up | down
  · rw [Set.uIcc_of_le up]
    have forward : 0 ≤ min step (goal - here) := le_min nonneg (by linarith)
    rw [max_eq_right (by linarith)]
    have most : min step (goal - here) ≤ goal - here := min_le_right _ _
    constructor <;> linarith
  · rw [Set.uIcc_of_ge down]
    have back : goal - here ≤ step := by linarith
    rw [min_eq_right back]
    have least : goal - here ≤ max (-step) (goal - here) := le_max_right _ _
    have most : max (-step) (goal - here) ≤ 0 := max_le (by linarith) (by linarith)
    constructor <;> linarith

/-- The distance that is left is shorter by a step, or gone. -/
theorem stepTowards_left (nonneg : 0 ≤ step) :
    |stepTowards step here goal - goal| = max 0 (|here - goal| - step) := by
  rw [stepTowards]
  rcases le_total here goal with up | down
  · have forward : 0 ≤ min step (goal - here) := le_min nonneg (by linarith)
    rw [max_eq_right (by linarith), abs_sub_comm here, abs_of_nonneg (sub_nonneg.mpr up)]
    rcases le_total step (goal - here) with far | near
    · rw [min_eq_left far, max_eq_right (by linarith), abs_sub_comm, abs_of_nonneg (by linarith)]
      ring
    · rw [min_eq_right near, max_eq_left (by linarith), add_sub_cancel, sub_self, abs_zero]
  · rw [min_eq_right (by linarith), abs_of_nonneg (sub_nonneg.mpr down)]
    rcases le_total (-step) (goal - here) with near | far
    · rw [max_eq_right near, max_eq_left (by linarith), add_sub_cancel, sub_self, abs_zero]
    · rw [max_eq_left far, max_eq_right (by linarith), abs_of_nonneg (by linarith)]
      ring

end Step

/-! ### The distance -/

/-- A distance outside the band shrinks by a full step, or to zero. -/
def recede (band step dist : R) : R := if dist < band then dist else max 0 (dist - step)

/-- How often a distance recedes before it is inside the band. -/
def recessions [FloorSemiring R] (band step dist : R) : ℕ :=
  if dist < band then 0 else ⌊(dist - band) / step⌋₊ + 1

section Distance

variable {band step dist : R}

omit [IsStrictOrderedRing R] in
/-- Inside the band nothing moves. -/
theorem recede_inside (inside : dist < band) (n : ℕ) : (recede band step)^[n] dist = dist := by
  have still : recede band step dist = dist := if_pos inside
  exact Function.iterate_fixed still n

omit [IsStrictOrderedRing R] in
theorem recede_outside (outside : band ≤ dist) : recede band step dist = max 0 (dist - step) :=
  if_neg (not_lt.mpr outside)

variable [FloorSemiring R]

/-- Up to the count the distance is outside the band, every step a full one. -/
theorem recede_early (band_pos : 0 < band) (positive : 0 < step) {n : ℕ}
    (early : n < recessions band step dist) :
    band ≤ (recede band step)^[n] dist ∧ (recede band step)^[n] dist = dist - n * step := by
  unfold recessions at early
  split at early
  · exact absurd early (Nat.not_lt_zero n)
  rename_i outside
  rw [not_lt] at outside
  have room (m : ℕ) (le : m ≤ ⌊(dist - band) / step⌋₊) : band ≤ dist - m * step := by
    have whole : (m : R) ≤ (dist - band) / step :=
      (Nat.cast_le.mpr le).trans (Nat.floor_le (div_nonneg (by linarith) positive.le))
    rw [le_div_iff₀ positive] at whole
    linarith
  induction n with
  | zero => exact ⟨outside, by simp⟩
  | succ n ih =>
    obtain ⟨far, length⟩ := ih (by omega)
    have further := room (n + 1) (by omega)
    have stepped : (recede band step)^[n + 1] dist = dist - (n + 1 : ℕ) * step := by
      rw [Function.iterate_succ_apply', recede_outside far, length]
      push_cast at further ⊢
      rw [max_eq_right (by linarith)]
      ring
    exact ⟨stepped ▸ further, stepped⟩

/-- From the count on it is inside. -/
theorem recede_late (band_pos : 0 < band) (positive : 0 < step) {n : ℕ}
    (late : recessions band step dist ≤ n) :
    (recede band step)^[n] dist = (recede band step)^[recessions band step dist] dist ∧
      (recede band step)^[n] dist < band := by
  have arrived : (recede band step)^[recessions band step dist] dist < band := by
    by_cases inside : dist < band
    · rwa [recede_inside inside]
    · have count : recessions band step dist = ⌊(dist - band) / step⌋₊ + 1 := if_neg inside
      have last : ⌊(dist - band) / step⌋₊ < recessions band step dist := by omega
      obtain ⟨far, length⟩ := recede_early band_pos positive last
      rw [count, Function.iterate_succ_apply', recede_outside far, length]
      have beyond := (div_lt_iff₀ positive).mp (Nat.lt_floor_add_one ((dist - band) / step))
      exact max_lt band_pos (by linarith)
  obtain ⟨more, rfl⟩ := Nat.exists_eq_add_of_le late
  have same : (recede band step)^[recessions band step dist + more] dist =
      (recede band step)^[recessions band step dist] dist := by
    rw [add_comm, Function.iterate_add_apply]
    exact recede_inside arrived more
  exact ⟨same, same ▸ arrived⟩

end Distance

end AiroFanuc.Library
