import AiroFanuc.Library.JerkProfile
import AiroFanuc.TickEngine.Capture

/-! The capture gate: what it rejects, what it exports, and that the time it grants a change of
velocity is the least one. -/

namespace AiroFanuc.TickEngine

open Library

/-! ### The gate as it is exported -/

section Export

variable {R : Type} [Field R] [LinearOrder R]

/-- The gate's part of what the binding returns. -/
structure GateExport (R : Type) where
  wouldReject : Bool
  tolExceeded : Bool
  rejectJoints : List (Fin kNumJoints)
  shedTravel : Vec6 R

def CaptureGate.exported (g : CaptureGate R) : GateExport R where
  wouldReject := g.reject
  tolExceeded := g.tolExceeded
  rejectJoints := (List.finRange kNumJoints).filter g.rejectMask
  shedTravel := g.shedTravel

variable {lib : External R} {qCmd qdCmd q0 qd0 : Vec6 R} {cfg : TickEngineConfig R}

theorem captureGate_tolExceeded : (captureGate lib qCmd qdCmd q0 qd0 cfg).tolExceeded = true ↔
    ∃ j, cfg.captureTolRad < |qCmd j - q0 j| := by
  simp only [captureGate, List.any_eq_true, List.mem_finRange, true_and, decide_eq_true_eq]

theorem captureGate_rejectMask (j : Fin kNumJoints) :
    (captureGate lib qCmd qdCmd q0 qd0 cfg).rejectMask j = true ↔
      cfg.captureRateRadS < |qd0 j| ∨
        cfg.captureTolRad < (captureGate lib qCmd qdCmd q0 qd0 cfg).shedTravel j := by
  simp only [captureGate, Bool.or_eq_true, decide_eq_true_eq]

/-- The verdict is the endpoint test or a joint of the mask. -/
theorem captureGate_reject : (captureGate lib qCmd qdCmd q0 qd0 cfg).reject = true ↔
    (captureGate lib qCmd qdCmd q0 qd0 cfg).tolExceeded = true ∨
      ∃ j, (captureGate lib qCmd qdCmd q0 qd0 cfg).rejectMask j = true := by
  rw [captureGate_tolExceeded, ← exists_or]
  simp only [captureGate_rejectMask]
  simp only [captureGate, List.any_eq_true, List.mem_finRange, true_and, Bool.or_eq_true,
    decide_eq_true_eq, or_assoc]

omit [Field R] [LinearOrder R] in
theorem rejectJoints_ne_nil {g : CaptureGate R} :
    g.exported.rejectJoints ≠ [] ↔ ∃ j, g.rejectMask j = true := by
  rw [← List.isEmpty_eq_false_iff, List.isEmpty_eq_false_iff_exists_mem]
  simp only [CaptureGate.exported, List.mem_filter, List.mem_finRange, true_and]

end Export

/-! ### The time to shed a velocity -/

section Shed

variable {lib : External ℝ} {a j dv : ℝ}

/-- `std::sqrt` on what is not negative. -/
def ExactSqrt (lib : External ℝ) : Prop := ∀ x, 0 ≤ x → lib.sqrt x = √x

theorem shedTime_eq (sqrt : ExactSqrt lib) (top : 0 < a) (slope : 0 < j) (dv : ℝ) :
    shedTime lib dv a j = if a * a / j ≤ dv then dv / a + a / j else 2 * √(dv / j) := by
  have peak : 0 < a * a / j := by positivity
  unfold shedTime
  by_cases moves : 0 < dv
  · rw [if_neg (by simp only [top, slope, moves, not_true, or_self, not_false_eq_true])]
    by_cases small : dv < a * a / j
    · rw [if_pos small, if_neg (not_le.mpr small), sqrt _ (by positivity)]
    · rw [if_neg small, if_pos (not_lt.mp small)]
  · have still : dv / j ≤ 0 := div_nonpos_of_nonpos_of_nonneg (not_lt.mp moves) slope.le
    rw [if_pos (.inr (.inr moves)), if_neg (by linarith), Real.sqrt_eq_zero_of_nonpos still, mul_zero]

/-- Where the triangle becomes a trapezoid both take `2a/j`. -/
theorem shedTime_meets (top : 0 < a) (slope : 0 < j) :
    2 * √(a * a / j / j) = a * a / j / a + a / j := by
  have square : a * a / j / j = (a / j) ^ 2 := by
    field_simp
  rw [square, Real.sqrt_sq (by positivity)]
  field_simp
  ring

theorem shedTime_continuous (sqrt : ExactSqrt lib) (top : 0 < a) (slope : 0 < j) :
    Continuous fun dv => shedTime lib dv a j := by
  simp only [shedTime_eq sqrt top slope]
  apply Continuous.if_le
  · fun_prop
  · fun_prop
  · fun_prop
  · fun_prop
  · rintro dv rfl
    exact (shedTime_meets top slope).symm

theorem shedTime_mono (sqrt : ExactSqrt lib) (top : 0 < a) (slope : 0 < j) :
    Monotone fun dv => shedTime lib dv a j := by
  intro x y le
  have triangle {v w : ℝ} (less : v ≤ w) : 2 * √(v / j) ≤ 2 * √(w / j) := by
    have root := Real.sqrt_le_sqrt (div_le_div_of_nonneg_right less slope.le)
    linarith
  have trapezoid {v w : ℝ} (less : v ≤ w) : v / a + a / j ≤ w / a + a / j := by
    have quotient := div_le_div_of_nonneg_right less top.le
    linarith
  simp only [shedTime_eq sqrt top slope]
  by_cases late : a * a / j ≤ x
  · rw [if_pos late, if_pos (late.trans le)]
    exact trapezoid le
  · rw [if_neg late]
    by_cases crossed : a * a / j ≤ y
    · rw [if_pos crossed]
      calc 2 * √(x / j) ≤ 2 * √(a * a / j / j) := triangle (not_le.mp late).le
        _ = a * a / j / a + a / j := shedTime_meets top slope
        _ ≤ y / a + a / j := trapezoid crossed
    · rw [if_neg crossed]
      exact triangle le

/-- No profile within the bounds makes the change in less. -/
theorem shedTime_least (sqrt : ExactSqrt lib) (top : 0 < a) (slope : 0 < j) (nonneg : 0 ≤ dv) :
    IsLeast (changeTimes a j dv) (shedTime lib dv a j) := by
  rw [shedTime_eq sqrt top slope]
  by_cases large : a * a / j ≤ dv
  · rw [if_pos large]
    rw [div_le_iff₀ slope, ← sq] at large
    exact changeTimes_trapezoid slope top large
  · rw [if_neg large]
    rw [not_le, lt_div_iff₀ slope, ← sq] at large
    exact changeTimes_triangle slope nonneg large.le top.le

theorem shedTime_least_abs (sqrt : ExactSqrt lib) (top : 0 < a) (slope : 0 < j) (dv : ℝ) :
    IsLeast (changeTimes a j dv) (shedTime lib |dv| a j) := by
  have least := shedTime_least sqrt top slope (abs_nonneg dv)
  rcases abs_choice dv with same | same
  · rwa [same] at least ⊢
  · rw [same, changeTimes_neg] at least
    rwa [same]

end Shed

/-! ### The law -/

section Law

/-- The brake-class bounds a splice runs under. -/
noncomputable def brakeA (cfg : TickEngineConfig ℝ) (j : Fin kNumJoints) : ℝ :=
  cfg.stopScaleVa * cfg.limits.a j

noncomputable def brakeJ (cfg : TickEngineConfig ℝ) (j : Fin kNumJoints) : ℝ :=
  cfg.stopScaleJ * cfg.limits.j j

/-- What the gate decides from a commanded state and a first knot. -/
structure GateLaw (lib : External ℝ) (cfg : TickEngineConfig ℝ) (qCmd qdCmd q0 qd0 : Vec6 ℝ) :
    Prop where
  rejects : (captureGate lib qCmd qdCmd q0 qd0 cfg).reject = true ↔
    ∃ j, cfg.captureTolRad < |qCmd j - q0 j| ∨ cfg.captureRateRadS < |qd0 j| ∨
      cfg.captureTolRad < (captureGate lib qCmd qdCmd q0 qd0 cfg).shedTravel j
  verdict : (captureGate lib qCmd qdCmd q0 qd0 cfg).reject = true ↔
    (captureGate lib qCmd qdCmd q0 qd0 cfg).tolExceeded = true ∨
      ∃ j, (captureGate lib qCmd qdCmd q0 qd0 cfg).rejectMask j = true
  exported : (captureGate lib qCmd qdCmd q0 qd0 cfg).exported.wouldReject = true ↔
    (captureGate lib qCmd qdCmd q0 qd0 cfg).exported.tolExceeded = true ∨
      (captureGate lib qCmd qdCmd q0 qd0 cfg).exported.rejectJoints ≠ []
  negated : (captureGate lib qCmd (-qdCmd) q0 (-qd0) cfg).shedTravel =
    (captureGate lib qCmd qdCmd q0 qd0 cfg).shedTravel
  exchanged : (captureGate lib qCmd qd0 q0 qdCmd cfg).shedTravel =
    (captureGate lib qCmd qdCmd q0 qd0 cfg).shedTravel
  agreeing : ∀ j, qdCmd j = qd0 j → (captureGate lib qCmd qdCmd q0 qd0 cfg).shedTravel j = 0
  travel : ∀ j, (captureGate lib qCmd qdCmd q0 qd0 cfg).shedTravel j =
    (|qdCmd j| + |qd0 j|) / 2 * shedTime lib |qd0 j - qdCmd j| (brakeA cfg j) (brakeJ cfg j)
  continuous : ∀ j, Continuous fun dv => shedTime lib dv (brakeA cfg j) (brakeJ cfg j)
  monotone : ∀ j, Monotone fun dv => shedTime lib dv (brakeA cfg j) (brakeJ cfg j)
  least : ∀ j, IsLeast (changeTimes (brakeA cfg j) (brakeJ cfg j) (qd0 j - qdCmd j))
    (shedTime lib |qd0 j - qdCmd j| (brakeA cfg j) (brakeJ cfg j))

/-- The gate is the three tests, and the time it takes a velocity change to cost is the least
time in which the splice could make it. -/
theorem capture_gate_law (lib : External ℝ) (sqrt : ExactSqrt lib) (cfg : TickEngineConfig ℝ)
    (top : ∀ j, 0 < brakeA cfg j) (slope : ∀ j, 0 < brakeJ cfg j) (qCmd qdCmd q0 qd0 : Vec6 ℝ) :
    GateLaw lib cfg qCmd qdCmd q0 qd0 := by
  constructor
  · rw [captureGate_reject, captureGate_tolExceeded, ← exists_or]
    simp only [captureGate_rejectMask]
  · exact captureGate_reject
  · rw [rejectJoints_ne_nil]
    exact captureGate_reject
  · funext j
    simp only [captureGate, Pi.neg_apply, abs_neg, neg_sub_neg, abs_sub_comm (qdCmd j)]
  · funext j
    simp only [captureGate, abs_sub_comm (qdCmd j), add_comm |qd0 j|]
  · intro j agree
    have still : shedTime lib |qd0 j - qdCmd j| (brakeA cfg j) (brakeJ cfg j) = 0 := by
      rw [agree, sub_self, abs_zero, shedTime, if_pos (.inr (.inr (lt_irrefl _)))]
    exact mul_eq_zero_of_right _ still
  · intro j
    simp only [captureGate, brakeA, brakeJ]
    ring
  · exact fun j => shedTime_continuous sqrt (top j) (slope j)
  · exact fun j => shedTime_mono sqrt (top j) (slope j)
  · exact fun j => shedTime_least_abs sqrt (top j) (slope j) _

/-- Real arithmetic, and a generator that refuses everything. -/
noncomputable def realExternal : External ℝ where
  ruckig := fun _ _ inp => (.error (-1), ⟨inp.currentPosition, 0, 0, 0, 0⟩)
  sqrt := Real.sqrt

theorem capture_gate_law_braking :
    GateLaw realExternal defaultTickEngineConfig 0 (fun _ => 1 / 2) 0 0 := by
  apply capture_gate_law
  · exact fun x _ => rfl
  · intro j
    norm_num [brakeA, defaultTickEngineConfig, defaultLimits]
  · intro j
    norm_num [brakeJ, defaultTickEngineConfig, defaultLimits]

end Law

end AiroFanuc.TickEngine
