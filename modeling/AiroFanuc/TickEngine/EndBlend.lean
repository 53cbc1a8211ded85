import AiroFanuc.TickEngine.Passage

/-! The end blend: a velocity ramp that is linear from the end of a trajectory to rest, over the
least whole number of ticks that is long enough. -/

namespace AiroFanuc.TickEngine.QdEndBlend

variable {R : Type} [Field R] [LinearOrder R] [FloorRing R]

/-- How much of a tick a blend may fall short of the least duration it was asked for. -/
def kTickGuard : R := 1 / 10 ^ 9

/-- What `plan` computes with no rounding and no bound on the count. -/
def durationS (minBlendS itpS : R) : R := (max 1 ⌈minBlendS / itpS - kTickGuard⌉ : Int) * itpS

/-- The duration in nanoseconds is the exact one, and fits in 64 bits. -/
structure Exact (b : QdEndBlend R) (minBlendS itpS : R) : Prop where
  length : (b.durNs : R) = durationS minBlendS itpS * 10 ^ 9
  fits : b.durNs ≤ kInt64Max

/-- The least whole number of ticks, at least one, that lasts `minBlendS` up to the guard. -/
structure LeastTicks (minBlendS itpS : R) (n : Int) : Prop where
  one : 1 ≤ n
  lasts : minBlendS ≤ (n + kTickGuard) * itpS
  least : ∀ k : Int, 1 ≤ k → minBlendS ≤ (k + kTickGuard) * itpS → n ≤ k

/-- The ramp from `qEnd` and `qdEnd` to rest in the time `T`, the time `t` after its start. -/
def rampAt (qEnd qdEnd : Vec6 R) (T t : R) : HermiteSample R where
  q := fun j => qEnd j + qdEnd j * (t - t ^ 2 / (2 * T))
  qd := fun j => (1 - t / T) * qdEnd j
  qdd := fun j => -qdEnd j / T

section Plan

variable [IsStrictOrderedRing R] {qEnd qdEnd : Vec6 R} {minBlendS itpS : R}

omit [FloorRing R] in
theorem maxAbs_pos {j : Fin kNumJoints} (moves : qdEnd j ≠ 0) : 0 < maxAbs qdEnd := by
  by_contra still
  have bounds := (maxAbs_le.mp (not_lt.mp still)).2 j
  exact moves (abs_eq_zero.mp (le_antisymm bounds (abs_nonneg _)))

/-- A count that does not fit is planned as one tick, and that is not the exact duration. -/
theorem ticks_exact (exact : (plan qEnd qdEnd minBlendS itpS).Exact minBlendS itpS)
    (positive : 0 < itpS) (moving : 0 < maxAbs qdEnd) :
    QdEndBlend.ticks minBlendS itpS = max 1 ⌈minBlendS / itpS - kTickGuard⌉ := by
  have length := exact.length
  simp only [plan, if_neg moving.not_ge, durationS] at length
  unfold QdEndBlend.ticks at length ⊢
  rw [← kTickGuard] at length ⊢
  generalize ⌈minBlendS / itpS - kTickGuard⌉ = count at length ⊢
  unfold castInt32 at length ⊢
  split
  case isTrue => rfl
  case isFalse out =>
    rw [if_neg out] at length
    rcases Int.lt_or_le count (-2 ^ 31) with low | high
    · omega
    · -- A period of a count that large would have to round to more than it is.
      have many : (3 : R) ≤ (max 1 count : Int) := by
        exact_mod_cast (by omega : (3 : Int) ≤ max 1 count)
      have one : max (1 : Int) (-2 ^ 31) = 1 := by decide
      rw [one, Int.cast_one, one_mul] at length
      have period : 0 < itpS * 10 ^ 9 := mul_pos positive (by positivity)
      have long : 3 * (itpS * 10 ^ 9) ≤ (llround (itpS * 10 ^ 9) : R) := by
        rw [length, mul_assoc]
        exact mul_le_mul_of_nonneg_right many period.le
      rw [llround_floor period.le] at long
      have near := Int.floor_le (itpS * 10 ^ 9 + 1 / 2)
      have short : itpS * 10 ^ 9 + 1 / 2 < 1 := by linarith
      rw [Int.floor_eq_zero_iff.mpr ⟨by linarith, short⟩, Int.cast_zero] at long
      linarith

theorem plan_ticks (exact : (plan qEnd qdEnd minBlendS itpS).Exact minBlendS itpS)
    (positive : 0 < itpS) (moving : 0 < maxAbs qdEnd) :
    LeastTicks minBlendS itpS (plan qEnd qdEnd minBlendS itpS).numTicks := by
  have count : (plan qEnd qdEnd minBlendS itpS).numTicks =
      max 1 ⌈minBlendS / itpS - kTickGuard⌉ := by
    rw [← ticks_exact exact positive moving]
    simp only [plan, if_neg moving.not_ge]
  have enough (k : Int) : minBlendS ≤ (k + kTickGuard) * itpS ↔
      ⌈minBlendS / itpS - kTickGuard⌉ ≤ k := by
    rw [Int.ceil_le, sub_le_iff_le_add, div_le_iff₀ positive]
  constructor
  · rw [count]
    exact le_max_left _ _
  · rw [enough, count]
    exact le_max_right _ _
  · intro k one long
    rw [count]
    exact max_le one ((enough k).mp long)

theorem plan_coast (exact : (plan qEnd qdEnd minBlendS itpS).Exact minBlendS itpS)
    (positive : 0 < itpS) (moving : 0 < maxAbs qdEnd) (j : Fin kNumJoints) :
    (plan qEnd qdEnd minBlendS itpS).qCoast j =
      qEnd j + 1 / 2 * (((plan qEnd qdEnd minBlendS itpS).durNs : R) / 10 ^ 9) * qdEnd j := by
  rw [exact.length, durationS, ← ticks_exact exact positive moving]
  simp only [plan, if_neg moving.not_ge]
  field_simp

theorem plan_length (exact : (plan qEnd qdEnd minBlendS itpS).Exact minBlendS itpS)
    (positive : 0 < itpS) : 0 < (plan qEnd qdEnd minBlendS itpS).durNs := by
  have length : (0 : R) < (plan qEnd qdEnd minBlendS itpS).durNs := by
    have count : (0 : R) < (max 1 ⌈minBlendS / itpS - kTickGuard⌉ : Int) := by
      exact_mod_cast lt_of_lt_of_le zero_lt_one (le_max_left _ _)
    rw [exact.length, durationS]
    positivity
  exact_mod_cast length

/-- Every sample up to the end, the special first one too, is on the ramp. -/
theorem plan_sample (exact : (plan qEnd qdEnd minBlendS itpS).Exact minBlendS itpS)
    (positive : 0 < itpS) (moving : 0 < maxAbs qdEnd) (tauNs : Int) (begun : 0 ≤ tauNs)
    (early : tauNs < (plan qEnd qdEnd minBlendS itpS).durNs) :
    (plan qEnd qdEnd minBlendS itpS).sample tauNs =
      rampAt qEnd qdEnd (((plan qEnd qdEnd minBlendS itpS).durNs : R) / 10 ^ 9)
        ((tauNs : R) / 10 ^ 9) := by
  have coast := plan_coast exact positive moving
  have start : (plan qEnd qdEnd minBlendS itpS).qEnd = qEnd ∧
      (plan qEnd qdEnd minBlendS itpS).qdEnd = qdEnd ∧
      (plan qEnd qdEnd minBlendS itpS).active = true := by
    simp only [plan, if_neg moving.not_ge, and_self]
  have passes := sample_passes exact.fits
    (fun _ j => by rw [start.1, start.2.1, coast]) begun
  have long : ((plan qEnd qdEnd minBlendS itpS).durNs : R) ≠ 0 := by
    exact_mod_cast (plan_length exact positive).ne'
  generalize plan qEnd qdEnd minBlendS itpS = b at *
  obtain ⟨rfl, rfl, active⟩ := start
  generalize sampled : b.sample tauNs = x at passes
  cases passes with
  | rests beyond =>
    rcases beyond with still | late
    · rw [active] at still
      cases still
    · omega
  | glides _ _ _ =>
    refine (HermiteSample.mk.injEq ..).mpr ⟨?_, ?_, ?_⟩
    · funext j
      simp only [arc, Library.Cubic.value, coast]
      field_simp
      ring
    · funext j
      simp only [arc, Library.Cubic.slope, coast]
      field_simp
      ring
    · funext j
      simp only [arc, Library.Cubic.bend, coast]
      field_simp
      ring

/-! ### The whole ramp -/

/-- A blend of the least whole number of ticks whose every sample is on the linear ramp, that
never turns back and ends at rest where it coasts to. -/
structure Ramps (b : QdEndBlend R) (qEnd qdEnd : Vec6 R) (minBlendS itpS : R) : Prop where
  ticks : LeastTicks minBlendS itpS b.numTicks
  samples : ∀ tauNs, 0 ≤ tauNs → tauNs < b.durNs →
    b.sample tauNs = rampAt qEnd qdEnd ((b.durNs : R) / 10 ^ 9) ((tauNs : R) / 10 ^ 9)
  ends : (b.sample b.durNs).q = (rampAt qEnd qdEnd ((b.durNs : R) / 10 ^ 9) (b.durNs / 10 ^ 9)).q ∧
    (b.sample b.durNs).qd = (rampAt qEnd qdEnd ((b.durNs : R) / 10 ^ 9) (b.durNs / 10 ^ 9)).qd
  rests : b.sample b.durNs = .atRest b.qCoast
  onward : ∀ tauNs tauNs', 0 ≤ tauNs → tauNs ≤ tauNs' → tauNs' ≤ b.durNs → ∀ j,
    0 ≤ ((b.sample tauNs').q j - (b.sample tauNs).q j) * qdEnd j
  forth : ∀ tauNs, 0 ≤ tauNs → tauNs ≤ b.durNs → ∀ j, 0 ≤ (b.sample tauNs).qd j * qdEnd j

/-- Along the ramp the place only moves the way the velocity points. -/
theorem rampAt_onward {T t t' : R} (positive : 0 < T) (later : t ≤ t') (within : t' ≤ T)
    (j : Fin kNumJoints) :
    0 ≤ ((rampAt qEnd qdEnd T t').q j - (rampAt qEnd qdEnd T t).q j) * qdEnd j := by
  have travel : ((rampAt qEnd qdEnd T t').q j - (rampAt qEnd qdEnd T t).q j) * qdEnd j =
      qdEnd j * qdEnd j * ((t' - t) * (2 * T - t - t') / (2 * T)) := by
    simp only [rampAt]
    field_simp
    ring
  rw [travel]
  apply mul_nonneg (mul_self_nonneg _)
  apply div_nonneg
  · exact mul_nonneg (sub_nonneg.mpr later) (by linarith)
  · positivity

theorem rampAt_forth {T t : R} (positive : 0 < T) (within : t ≤ T) (j : Fin kNumJoints) :
    0 ≤ (rampAt qEnd qdEnd T t).qd j * qdEnd j := by
  have share : t / T ≤ 1 := (div_le_one positive).mpr within
  have speed : (rampAt qEnd qdEnd T t).qd j * qdEnd j = qdEnd j * qdEnd j * (1 - t / T) := by
    simp only [rampAt]
    ring
  rw [speed]
  exact mul_nonneg (mul_self_nonneg _) (sub_nonneg.mpr share)

theorem end_blend_ramps (exact : (plan qEnd qdEnd minBlendS itpS).Exact minBlendS itpS)
    (positive : 0 < itpS) (moves : ∃ j, qdEnd j ≠ 0) :
    (plan qEnd qdEnd minBlendS itpS).Ramps qEnd qdEnd minBlendS itpS := by
  obtain ⟨i, moves⟩ := moves
  have moving := maxAbs_pos moves
  have ticks := plan_ticks exact positive moving
  have length := plan_length exact positive
  have coast := plan_coast exact positive moving
  have samples := plan_sample exact positive moving
  generalize plan qEnd qdEnd minBlendS itpS = b at *
  have long : (0 : R) < (b.durNs : R) / 10 ^ 9 := by
    have whole : (0 : R) < b.durNs := by exact_mod_cast length
    positivity
  have rests : b.sample b.durNs = .atRest b.qCoast := by
    rw [sample, if_pos (.inr le_rfl)]
  have ends : (b.sample b.durNs).q =
      (rampAt qEnd qdEnd ((b.durNs : R) / 10 ^ 9) (b.durNs / 10 ^ 9)).q ∧
      (b.sample b.durNs).qd =
        (rampAt qEnd qdEnd ((b.durNs : R) / 10 ^ 9) (b.durNs / 10 ^ 9)).qd := by
    rw [rests]
    constructor
    · funext j
      simp only [HermiteSample.atRest, rampAt, coast]
      field_simp
      ring
    · funext j
      simp only [HermiteSample.atRest, rampAt, div_self long.ne', sub_self, zero_mul, Pi.zero_apply]
  -- The last sample is a branch of its own, and the ramp's value at its end.
  have onRamp (tauNs : Int) (begun : 0 ≤ tauNs) (within : tauNs ≤ b.durNs) :
      (b.sample tauNs).q = (rampAt qEnd qdEnd ((b.durNs : R) / 10 ^ 9) (tauNs / 10 ^ 9)).q ∧
      (b.sample tauNs).qd = (rampAt qEnd qdEnd ((b.durNs : R) / 10 ^ 9) (tauNs / 10 ^ 9)).qd := by
    rcases within.eq_or_lt with rfl | early
    · exact ends
    · rw [samples tauNs begun early]
      exact ⟨rfl, rfl⟩
  have order {a c : Int} (le : a ≤ c) : (a : R) / 10 ^ 9 ≤ (c : R) / 10 ^ 9 := by
    have whole : (a : R) ≤ c := by exact_mod_cast le
    exact div_le_div_of_nonneg_right whole (by positivity)
  constructor
  · exact ticks
  · exact samples
  · exact ends
  · exact rests
  · intro tauNs tauNs' begun later within j
    rw [(onRamp tauNs begun (later.trans within)).1, (onRamp tauNs' (begun.trans later) within).1]
    exact rampAt_onward long (order later) (order within) j
  · intro tauNs begun within j
    rw [(onRamp tauNs begun within).2]
    exact rampAt_forth long (order within) j

/-- A tenth of a second at half a radian a second: thirteen ticks. -/
theorem end_blend_ramps_thirteen_ticks :
    (plan (0 : Vec6 ℚ) (fun _ => 1 / 2) (1 / 10) (8 / 1000)).Ramps 0 (fun _ => 1 / 2) (1 / 10)
      (8 / 1000) ∧
      (plan (0 : Vec6 ℚ) (fun _ => 1 / 2) (1 / 10) (8 / 1000)).numTicks = 13 := by
  constructor
  · apply end_blend_ramps
    · constructor <;> decide +kernel
    · norm_num
    · exact ⟨0, by norm_num⟩
  · decide +kernel

end Plan

end AiroFanuc.TickEngine.QdEndBlend
