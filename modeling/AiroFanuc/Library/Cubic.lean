import AiroFanuc.Library.Numerals
import Mathlib

/-! The cubic between two points with a given slope at each: its values and derivatives, and
when it runs from the one to the other without turning. -/

namespace AiroFanuc.Library

/-- From `start` to `goal` in the time `length`. -/
structure Cubic (R : Type) where
  start : R
  startSlope : R
  goal : R
  goalSlope : R
  length : R

namespace Cubic

section Field

variable {R : Type} [Field R] (c : Cubic R)

/-- The value after the fraction `u` of the time. -/
def value (u : R) : R :=
  (2 * u ^ 3 - 3 * u ^ 2 + 1) * c.start + (u ^ 3 - 2 * u ^ 2 + u) * c.length * c.startSlope +
    (-2 * u ^ 3 + 3 * u ^ 2) * c.goal + (u ^ 3 - u ^ 2) * c.length * c.goalSlope

def slope (u : R) : R :=
  ((6 * u ^ 2 - 6 * u) * c.start + (-6 * u ^ 2 + 6 * u) * c.goal) / c.length +
    (3 * u ^ 2 - 4 * u + 1) * c.startSlope + (3 * u ^ 2 - 2 * u) * c.goalSlope

def bend (u : R) : R :=
  ((12 * u - 6) * c.start + (-12 * u + 6) * c.goal) / c.length ^ 2 +
    ((6 * u - 4) * c.startSlope + (6 * u - 2) * c.goalSlope) / c.length

def secant : R := (c.goal - c.start) / c.length

@[simp] theorem value_zero : c.value 0 = c.start := by
  simp only [value]
  ring

@[simp] theorem value_one : c.value 1 = c.goal := by
  simp only [value]
  ring

@[simp] theorem slope_zero : c.slope 0 = c.startSlope := by
  simp only [slope]
  ring

@[simp] theorem slope_one : c.slope 1 = c.goalSlope := by
  simp only [slope]
  ring

/-- The slope in terms of the secant. -/
theorem slope_secant (u : R) :
    c.slope u = c.secant * (6 * u * (1 - u)) + c.startSlope * ((1 - u) * (1 - 3 * u)) +
      c.goalSlope * (u * (3 * u - 2)) := by
  simp only [slope, secant]
  ring

def mirrored : Cubic R := ⟨-c.start, -c.startSlope, -c.goal, -c.goalSlope, c.length⟩

theorem mirrored_value (u : R) : c.mirrored.value u = -c.value u := by
  simp only [value, mirrored]
  ring

theorem mirrored_secant : c.mirrored.secant = -c.secant := by
  simp only [secant, mirrored]
  ring

end Field

section Order

variable {R : Type} [Field R] [LinearOrder R] [IsStrictOrderedRing R] {c : Cubic R}

/-- No slope against the secant, and none more than three times as steep. -/
structure Rises (c : Cubic R) : Prop where
  start : 0 ≤ c.startSlope ∧ c.startSlope ≤ 3 * c.secant
  goal : 0 ≤ c.goalSlope ∧ c.goalSlope ≤ 3 * c.secant

/-- The slope is affine in the two end slopes, so it is enough that it is not negative at the
four corners of what they may be. -/
theorem Rises.slope_nonneg (rises : c.Rises) {u : R} (low : 0 ≤ u) (high : u ≤ 1) :
    0 ≤ c.slope u := by
  obtain ⟨⟨startLow, startHigh⟩, goalLow, goalHigh⟩ := rises
  have rest : 0 ≤ 1 - u := sub_nonneg.mpr high
  have steep : 0 ≤ c.secant := by linarith
  rcases steep.eq_or_lt with flat | steep
  · have startFlat : c.startSlope = 0 := by linarith
    have goalFlat : c.goalSlope = 0 := by linarith
    rw [slope_secant, ← flat, startFlat, goalFlat]
    simp
  · have corners : 9 * c.secant * c.slope u =
        (3 * c.secant - c.startSlope) * (3 * c.secant - c.goalSlope) * (6 * u * (1 - u)) +
          c.startSlope * (3 * c.secant - c.goalSlope) * (3 * (1 - u) ^ 2) +
          (3 * c.secant - c.startSlope) * c.goalSlope * (3 * u ^ 2) +
          c.startSlope * c.goalSlope * (3 * (1 - 2 * u) ^ 2) := by
      rw [slope_secant]
      ring
    have startRoom : 0 ≤ 3 * c.secant - c.startSlope := sub_nonneg.mpr startHigh
    have goalRoom : 0 ≤ 3 * c.secant - c.goalSlope := sub_nonneg.mpr goalHigh
    have positive : 0 ≤ 9 * c.secant * c.slope u := by
      rw [corners]
      positivity
    exact nonneg_of_mul_nonneg_right positive (by positivity)

end Order

/-! ### Over time -/

section Time

variable (c : Cubic ℝ)

theorem hasDerivAt_value (solid : c.length ≠ 0) (u : ℝ) :
    HasDerivAt c.value (c.length * c.slope u) u := by
  have cube := hasDerivAt_pow 3 u
  have square := hasDerivAt_pow 2 u
  have line := hasDerivAt_id u
  have starts := (((cube.const_mul 2).sub (square.const_mul 3)).add_const 1).mul_const c.start
  have leaves := (((cube.sub (square.const_mul 2)).add line).mul_const c.length).mul_const
    c.startSlope
  have ends := ((cube.const_mul (-2)).add (square.const_mul 3)).mul_const c.goal
  have arrives := ((cube.sub square).mul_const c.length).mul_const c.goalSlope
  refine (((starts.add leaves).add ends).add arrives).congr_deriv ?_
  simp only [slope]
  field_simp
  norm_num
  ring

theorem hasDerivAt_slope (solid : c.length ≠ 0) (u : ℝ) :
    HasDerivAt c.slope (c.length * c.bend u) u := by
  have square := hasDerivAt_pow 2 u
  have line := hasDerivAt_id u
  have starts := ((square.const_mul 6).sub (line.const_mul 6)).mul_const c.start
  have ends := ((square.const_mul (-6)).add (line.const_mul 6)).mul_const c.goal
  have leaves := (((square.const_mul 3).sub (line.const_mul 4)).add_const 1).mul_const c.startSlope
  have arrives := ((square.const_mul 3).sub (line.const_mul 2)).mul_const c.goalSlope
  refine ((((starts.add ends).div_const c.length).add leaves).add arrives).congr_deriv ?_
  simp only [bend]
  field_simp
  norm_num
  ring

variable {c}

/-- The values rise all the way from the start to the goal. -/
theorem Rises.monotoneOn (rises : c.Rises) (long : 0 < c.length) :
    MonotoneOn c.value (Set.Icc 0 1) := by
  apply monotoneOn_of_deriv_nonneg (convex_Icc 0 1)
  · intro u _
    exact (c.hasDerivAt_value long.ne' u).continuousAt.continuousWithinAt
  · intro u _
    exact (c.hasDerivAt_value long.ne' u).differentiableAt.differentiableWithinAt
  · intro u inside
    rw [interior_Icc] at inside
    rw [(c.hasDerivAt_value long.ne' u).deriv]
    exact mul_nonneg long.le (rises.slope_nonneg inside.1.le inside.2.le)

/-- With both end slopes between zero and three times the secant it does not turn. -/
theorem monotone_or_antitone (long : 0 < c.length)
    (start : c.startSlope ∈ Set.uIcc 0 (3 * c.secant))
    (goal : c.goalSlope ∈ Set.uIcc 0 (3 * c.secant)) :
    MonotoneOn c.value (Set.Icc 0 1) ∨ AntitoneOn c.value (Set.Icc 0 1) := by
  rcases le_total 0 c.secant with up | down
  · have room : (0 : ℝ) ≤ 3 * c.secant := by positivity
    rw [Set.uIcc_of_le room] at start goal
    exact .inl (Rises.monotoneOn ⟨start, goal⟩ long)
  · have room : 3 * c.secant ≤ 0 := by linarith
    rw [Set.uIcc_of_ge room] at start goal
    have rises : c.mirrored.Rises := by
      constructor
      · rw [mirrored_secant]
        exact ⟨neg_nonneg.mpr start.2, by simp only [mirrored]; linarith [start.1]⟩
      · rw [mirrored_secant]
        exact ⟨neg_nonneg.mpr goal.2, by simp only [mirrored]; linarith [goal.1]⟩
    have mirror := rises.monotoneOn (c := c.mirrored) long
    refine .inr fun a insideA b insideB le => ?_
    have rising := mirror insideA insideB le
    rwa [mirrored_value, mirrored_value, neg_le_neg_iff] at rising

end Time

end Cubic

end AiroFanuc.Library
