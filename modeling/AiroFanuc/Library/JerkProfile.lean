import AiroFanuc.Library.Numerals
import Mathlib.Analysis.SpecialFunctions.Integrals.Basic
import Mathlib.Analysis.SpecialFunctions.Sqrt

/-! Acceleration profiles of bounded size and slope that start and end at zero, and the least
time in which one of them makes a given change of velocity. -/

namespace AiroFanuc.Library

open MeasureTheory Set

/-- An acceleration over the time `[0, T]`, at most `a` in size and `j` in slope, from zero to
zero. -/
structure JerkProfile (a j T : ℝ) (acc : ℝ → ℝ) : Prop where
  time : 0 ≤ T
  start : acc 0 = 0
  finish : acc T = 0
  bounded : ∀ t ∈ Icc 0 T, |acc t| ≤ a
  sloped : ∀ s ∈ Icc 0 T, ∀ t ∈ Icc 0 T, |acc s - acc t| ≤ j * |s - t|

/-- The times in which some profile changes the velocity by `dv`. -/
def changeTimes (a j dv : ℝ) : Set ℝ :=
  { T | ∃ acc, JerkProfile a j T acc ∧ ∫ t in (0 : ℝ)..T, acc t = dv }

variable {a j T r dv : ℝ} {acc : ℝ → ℝ}

namespace JerkProfile

theorem neg (profile : JerkProfile a j T acc) : JerkProfile a j T fun t => -acc t where
  time := profile.time
  start := by rw [profile.start, neg_zero]
  finish := by rw [profile.finish, neg_zero]
  bounded t inside := by
    rw [abs_neg]
    exact profile.bounded t inside
  sloped s insideS t insideT := by
    rw [← neg_sub', abs_neg]
    exact profile.sloped s insideS t insideT

theorem continuousOn (profile : JerkProfile a j T acc) (nonneg : 0 ≤ j) :
    ContinuousOn acc (Icc 0 T) := by
  have lipschitz : LipschitzOnWith ⟨j, nonneg⟩ acc (Icc 0 T) := by
    apply LipschitzOnWith.of_dist_le_mul
    intro s insideS t insideT
    exact profile.sloped s insideS t insideT
  exact lipschitz.continuousOn

theorem integrable (profile : JerkProfile a j T acc) (nonneg : 0 ≤ j) {x y : ℝ} (low : 0 ≤ x)
    (le : x ≤ y) (high : y ≤ T) : IntervalIntegrable acc volume x y := by
  apply ContinuousOn.intervalIntegrable
  rw [uIcc_of_le le]
  exact (profile.continuousOn nonneg).mono (Icc_subset_Icc low high)

/-- Away from either end the slope bounds the acceleration. -/
theorem le_ramp (profile : JerkProfile a j T acc) {t : ℝ} (inside : t ∈ Icc 0 T) :
    acc t ≤ j * t ∧ acc t ≤ j * (T - t) := by
  have first := profile.sloped t inside 0 (left_mem_Icc.mpr profile.time)
  have last := profile.sloped t inside T (right_mem_Icc.mpr profile.time)
  rw [profile.start, sub_zero, sub_zero, abs_of_nonneg inside.1] at first
  rw [profile.finish, sub_zero, abs_sub_comm, abs_of_nonneg (sub_nonneg.mpr inside.2)] at last
  exact ⟨(le_abs_self _).trans first, (le_abs_self _).trans last⟩

theorem integral_ramp (j r : ℝ) : ∫ t in (0 : ℝ)..r, j * t = j * r ^ 2 / 2 := by
  rw [intervalIntegral.integral_const_mul, integral_id]
  ring

theorem integral_ramp_down (j r T : ℝ) : ∫ t in (T - r)..T, j * (T - t) = j * r ^ 2 / 2 := by
  rw [intervalIntegral.integral_comp_sub_left (fun t => j * t) T, sub_self, sub_sub_cancel]
  exact integral_ramp j r

/-- Two ramps and what is between them bound the change of velocity. -/
theorem integral_le (profile : JerkProfile a j T acc) (nonneg : 0 ≤ j) (low : 0 ≤ r)
    (half : 2 * r ≤ T) (middle : ∀ t ∈ Icc r (T - r), acc t ≤ j * r) :
    ∫ t in (0 : ℝ)..T, acc t ≤ j * r * (T - r) := by
  have up := profile.integrable nonneg le_rfl low (by linarith)
  have level := profile.integrable nonneg low (by linarith : r ≤ T - r) (by linarith)
  have down := profile.integrable nonneg (by linarith : 0 ≤ T - r) (by linarith) le_rfl
  have rising : ∫ t in (0 : ℝ)..r, acc t ≤ j * r ^ 2 / 2 := by
    rw [← integral_ramp j r]
    apply intervalIntegral.integral_mono_on low up
      ((by fun_prop : Continuous _).intervalIntegrable _ _)
    intro t inside
    exact (profile.le_ramp ⟨inside.1, by linarith [inside.2]⟩).1
  have steady : ∫ t in r..(T - r), acc t ≤ j * r * (T - 2 * r) := by
    calc ∫ t in r..(T - r), acc t
        ≤ ∫ _ in r..(T - r), j * r :=
          intervalIntegral.integral_mono_on (by linarith) level intervalIntegrable_const middle
      _ = j * r * (T - 2 * r) := by
          rw [intervalIntegral.integral_const, smul_eq_mul]
          ring
  have falling : ∫ t in (T - r)..T, acc t ≤ j * r ^ 2 / 2 := by
    rw [← integral_ramp_down j r T]
    apply intervalIntegral.integral_mono_on (by linarith) down
      ((by fun_prop : Continuous _).intervalIntegrable _ _)
    intro t inside
    exact (profile.le_ramp ⟨by linarith [inside.1], inside.2⟩).2
  calc ∫ t in (0 : ℝ)..T, acc t
      = (∫ t in (0 : ℝ)..r, acc t) + (∫ t in r..(T - r), acc t) + ∫ t in (T - r)..T, acc t := by
        rw [intervalIntegral.integral_add_adjacent_intervals up level,
          intervalIntegral.integral_add_adjacent_intervals (up.trans level) down]
    _ ≤ j * r ^ 2 / 2 + j * r * (T - 2 * r) + j * r ^ 2 / 2 := by linarith
    _ = j * r * (T - r) := by ring

/-- Without a bound but the slope the best is a triangle. -/
theorem integral_le_triangle (profile : JerkProfile a j T acc) (nonneg : 0 ≤ j) :
    ∫ t in (0 : ℝ)..T, acc t ≤ j * (T / 2) ^ 2 := by
  have time := profile.time
  have peak : ∀ t ∈ Icc (T / 2) (T - T / 2), acc t ≤ j * (T / 2) := by
    intro t inside
    obtain rfl : t = T / 2 := le_antisymm (by linarith [inside.2]) inside.1
    exact (profile.le_ramp ⟨by linarith, by linarith⟩).1
  calc ∫ t in (0 : ℝ)..T, acc t
      ≤ j * (T / 2) * (T - T / 2) :=
        profile.integral_le nonneg (by linarith) (by linarith) peak
    _ = j * (T / 2) ^ 2 := by ring

end JerkProfile

/-! ### The trapezoid -/

/-- Up at slope `j` for `r`, level, and down again. -/
def trapezoid (j T r t : ℝ) : ℝ := j * min (min t r) (T - t)

theorem trapezoid_profile (slope : 0 ≤ j) (low : 0 ≤ r) (half : 2 * r ≤ T) (top : j * r ≤ a) :
    JerkProfile a j T (trapezoid j T r) := by
  have inner (t : ℝ) (inside : t ∈ Icc 0 T) :
      0 ≤ min (min t r) (T - t) ∧ min (min t r) (T - t) ≤ r := by
    have rest := sub_nonneg.mpr inside.2
    exact ⟨le_min (le_min inside.1 low) rest, (min_le_left _ _).trans (min_le_right _ _)⟩
  constructor
  · linarith
  · simp only [trapezoid, sub_zero, min_eq_left low]
    rw [min_eq_left (by linarith), mul_zero]
  · simp only [trapezoid, sub_self]
    rw [min_eq_right (le_min (by linarith) low), mul_zero]
  · intro t inside
    obtain ⟨above, below⟩ := inner t inside
    rw [trapezoid, abs_of_nonneg (mul_nonneg slope above)]
    exact (mul_le_mul_of_nonneg_left below slope).trans top
  · intro s insideS t insideT
    rw [trapezoid, trapezoid, ← mul_sub, abs_mul, abs_of_nonneg slope]
    apply mul_le_mul_of_nonneg_left _ slope
    have outer := abs_min_sub_min_le_max (min s r) (T - s) (min t r) (T - t)
    have inside := abs_min_sub_min_le_max s r t r
    rw [sub_self, abs_zero, max_eq_left (abs_nonneg _)] at inside
    have mirrored : |T - s - (T - t)| = |s - t| := by
      rw [sub_sub_sub_cancel_left, abs_sub_comm]
    rw [mirrored] at outer
    exact outer.trans (max_le inside le_rfl)

theorem trapezoid_integral (low : 0 ≤ r) (half : 2 * r ≤ T) :
    ∫ t in (0 : ℝ)..T, trapezoid j T r t = j * r * (T - r) := by
  have whole (x y : ℝ) : IntervalIntegrable (trapezoid j T r) volume x y := by
    apply Continuous.intervalIntegrable
    unfold trapezoid
    fun_prop
  have rising : ∫ t in (0 : ℝ)..r, trapezoid j T r t = j * r ^ 2 / 2 := by
    rw [← JerkProfile.integral_ramp j r]
    apply intervalIntegral.integral_congr
    intro t inside
    rw [uIcc_of_le low] at inside
    simp only [trapezoid]
    rw [min_eq_left inside.2, min_eq_left (by linarith [inside.2])]
  have steady : ∫ t in r..(T - r), trapezoid j T r t = j * r * (T - 2 * r) := by
    calc ∫ t in r..(T - r), trapezoid j T r t
        = ∫ _ in r..(T - r), j * r := by
          apply intervalIntegral.integral_congr
          intro t inside
          rw [uIcc_of_le (by linarith)] at inside
          simp only [trapezoid]
          rw [min_eq_right inside.1, min_eq_left (by linarith [inside.2])]
      _ = j * r * (T - 2 * r) := by
          rw [intervalIntegral.integral_const, smul_eq_mul]
          ring
  have falling : ∫ t in (T - r)..T, trapezoid j T r t = j * r ^ 2 / 2 := by
    rw [← JerkProfile.integral_ramp_down j r T]
    apply intervalIntegral.integral_congr
    intro t inside
    rw [uIcc_of_le (by linarith)] at inside
    simp only [trapezoid]
    rw [min_eq_right (le_min (by linarith [inside.1]) (by linarith [inside.1]))]
  calc ∫ t in (0 : ℝ)..T, trapezoid j T r t
      = (∫ t in (0 : ℝ)..r, trapezoid j T r t) + (∫ t in r..(T - r), trapezoid j T r t) +
          ∫ t in (T - r)..T, trapezoid j T r t := by
        rw [intervalIntegral.integral_add_adjacent_intervals (whole 0 r) (whole r (T - r)),
          intervalIntegral.integral_add_adjacent_intervals (whole 0 (T - r)) (whole (T - r) T)]
    _ = j * r ^ 2 / 2 + j * r * (T - 2 * r) + j * r ^ 2 / 2 := by rw [rising, steady, falling]
    _ = j * r * (T - r) := by ring

/-! ### The least time -/

/-- The other way round takes as long. -/
theorem changeTimes_neg (a j dv : ℝ) : changeTimes a j (-dv) = changeTimes a j dv := by
  have mirror (dv : ℝ) : changeTimes a j dv ⊆ changeTimes a j (-dv) := by
    rintro T ⟨acc, profile, change⟩
    refine ⟨fun t => -acc t, profile.neg, ?_⟩
    rw [intervalIntegral.integral_neg, change]
  apply Subset.antisymm _ (mirror dv)
  have back := mirror (-dv)
  rwa [neg_neg] at back

/-- Small changes are made by a triangle: the acceleration bound is not met. -/
theorem changeTimes_triangle (slope : 0 < j) (nonneg : 0 ≤ dv) (small : dv * j ≤ a ^ 2)
    (top : 0 ≤ a) : IsLeast (changeTimes a j dv) (2 * √(dv / j)) := by
  have square : √(dv / j) ^ 2 = dv / j := Real.sq_sqrt (by positivity)
  constructor
  · refine ⟨trapezoid j (2 * √(dv / j)) √(dv / j), ?_, ?_⟩
    · apply trapezoid_profile slope.le (Real.sqrt_nonneg _) le_rfl
      apply abs_le_of_sq_le_sq' _ top |>.2
      calc (j * √(dv / j)) ^ 2 = dv * j := by
            rw [mul_pow, square]
            field_simp
        _ ≤ a ^ 2 := small
    · rw [trapezoid_integral (Real.sqrt_nonneg _) le_rfl]
      calc j * √(dv / j) * (2 * √(dv / j) - √(dv / j)) = j * √(dv / j) ^ 2 := by ring
        _ = dv := by
            rw [square]
            field_simp
  · rintro T ⟨acc, profile, rfl⟩
    have time := profile.time
    have change := profile.integral_le_triangle slope.le
    have root : √((∫ t in (0 : ℝ)..T, acc t) / j) ≤ T / 2 := by
      apply Real.sqrt_le_iff.mpr
      refine ⟨by linarith, ?_⟩
      rw [div_le_iff₀ slope]
      exact change.trans_eq (mul_comm _ _)
    linarith

/-- Larger ones by a trapezoid, level at the bound. -/
theorem changeTimes_trapezoid (slope : 0 < j) (top : 0 < a) (large : a ^ 2 ≤ dv * j) :
    IsLeast (changeTimes a j dv) (dv / a + a / j) := by
  have ramp : j * (a / j) = a := by field_simp
  have level : a / j ≤ dv / a := by
    rw [div_le_div_iff₀ slope top]
    linarith [sq a]
  constructor
  · refine ⟨trapezoid j (dv / a + a / j) (a / j), ?_, ?_⟩
    · exact trapezoid_profile slope.le (by positivity) (by linarith) ramp.le
    · rw [trapezoid_integral (by positivity) (by linarith), ramp]
      field_simp
      ring
  · rintro T ⟨acc, profile, rfl⟩
    have time := profile.time
    have long : 2 * (a / j) ≤ T := by
      by_contra short
      rw [not_le] at short
      have change := profile.integral_le_triangle slope.le
      have steep : j * (T / 2) < a := by
        calc j * (T / 2) < j * (a / j) := mul_lt_mul_of_pos_left (by linarith) slope
          _ = a := ramp
      have smaller : j * (T / 2) ^ 2 * j < a ^ 2 := by
        calc j * (T / 2) ^ 2 * j = (j * (T / 2)) ^ 2 := by ring
          _ < a ^ 2 := pow_lt_pow_left₀ steep (by positivity) two_ne_zero
      have bounded := mul_le_mul_of_nonneg_right change slope.le
      linarith
    have change := profile.integral_le slope.le (r := a / j) (by positivity) long (by
      intro t inside
      rw [ramp]
      have early : 0 ≤ a / j := by positivity
      exact (le_abs_self _).trans (profile.bounded t ⟨early.trans inside.1, by linarith [inside.2]⟩))
    rw [ramp] at change
    have spent : (∫ t in (0 : ℝ)..T, acc t) / a ≤ T - a / j := by
      rw [div_le_iff₀ top]
      linarith
    linarith

end AiroFanuc.Library
