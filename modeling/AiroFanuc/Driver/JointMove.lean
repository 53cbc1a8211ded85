import AiroFanuc.Driver.TrajectoryCheck
import AiroFanuc.Library.Rounding
import AiroFanuc.RtCore.Config
import AiroFanuc.TickEngine.Playback

/-! The knots a point-to-point move is planned as, against what the driver checks of them. Every
operation on doubles is rounded here: the times are whole nanoseconds of rounded quotients. -/

namespace AiroFanuc.Driver

open TickEngine RtCore
open Library (double double_zero double_one nearest_nonneg nearest_le_of_le nearest_representable
  nearest_error nearest_eq le_nearest_of_le)

section Plan

variable {R : Type} [Field R] [LinearOrder R] [FloorRing R]

/-- A trajectory Ruckig planned offline; its duration is a double. -/
structure Planned (R : Type) [Field R] [LinearOrder R] [FloorRing R] where
  duration : R
  atTime : R → HermiteSample R
  represented : double duration = duration

/-- Ruckig's offline planner: `calculate` on an instance of this cycle time. -/
abbrev Planner (R : Type) [Field R] [LinearOrder R] [FloorRing R] :=
  R → InputParameter R → Result × Planned R

/-- Every exception the planner's binding throws. -/
inductive PlanError where
  | length (name : String)
  | scales
  | itp
  | ruckig (code : Int)
  deriving DecidableEq, Repr

structure JointMove (R : Type) where
  timesNs : List Int
  q : List (Vec6 R)
  qd : List (Vec6 R)
  count : Int
  durationS : R

def vec6 (v : List R) : Vec6 R := fun j => v.getD j 0

def toVec6 (name : String) (v : List R) : Except PlanError (Vec6 R) :=
  if v.length ≠ kNumJoints then .error (.length name) else .ok (vec6 v)

/-- `static_cast<std::int64_t>(std::llround(x))`; what does not fit gives the minimum. -/
def llroundInt64 (x : R) : Int :=
  if kInt64Min ≤ llround x ∧ llround x ≤ kInt64Max then llround x else kInt64Min

def moveInput (cfg : TickEngineConfig R) (p0 v0 a0 pt : Vec6 R)
    (maxVelocityRadS accelScale jerkScale : R) : InputParameter R where
  controlInterface := .position
  maxVelocity := fun j =>
    if 0 < maxVelocityRadS then min (cfg.limits.v j) maxVelocityRadS else cfg.limits.v j
  maxAcceleration := fun j => double (accelScale * cfg.limits.a j)
  maxJerk := fun j => double (jerkScale * cfg.limits.j j)
  currentPosition := p0
  currentVelocity := v0
  currentAcceleration := a0
  targetPosition := pt
  targetVelocity := 0
  targetAcceleration := 0
  minimumDuration := none

/-- The planned trajectory at evenly spaced times, its last knot pinned to the target. -/
def moveKnots (itpS : R) (pt : Vec6 R) (traj : Planned R) : JointMove R :=
  let itpNs := llroundInt64 (double (itpS * 10 ^ 9))
  let planNs := llroundInt64 (double (traj.duration * 10 ^ 9))
  let execNs := max planNs itpNs
  let execD := double (execNs : R)
  let nIntervals := max 1 (castInt32 ⌈double (execD / double (itpNs : R))⌉)
  let n := nIntervals.toNat
  let frac (k : Nat) : R := double ((k : R) / (n : R))
  let samples := (List.range (n + 1)).map fun k => traj.atTime (double (traj.duration * frac k))
  { timesNs := (List.range (n + 1)).map fun k => llroundInt64 (double (execD * frac k))
    q := (samples.map HermiteSample.q).set n pt
    qd := (samples.map HermiteSample.qd).set n 0
    count := nIntervals + 1
    durationS := double (execD / 10 ^ 9) }

def checkScales (accelScale jerkScale : R) : Except PlanError Unit :=
  if ¬ (0 < accelScale ∧ accelScale ≤ 1) ∨ ¬ (0 < jerkScale ∧ jerkScale ≤ 1) then .error .scales
  else .ok ()

def checkItp (itpS : R) : Except PlanError Unit := if 0 < itpS then .ok () else .error .itp

/-- The caller's commanded acceleration; an empty one is zeros. -/
def seededFrom (qdd0 : List R) : Except PlanError (Vec6 R) :=
  if qdd0.isEmpty then .ok 0 else toVec6 "qdd0" qdd0

def calculated : Result × Planned R → Except PlanError (Planned R)
  | (.error code, _) => .error (.ruckig code)
  | (_, traj) => .ok traj

def planJointMove (otg : Planner R) (q0 qd0 qTarget : List R) (config : Option (RtCoreConfig R))
    (maxVelocityRadS accelScale jerkScale : R) (qdd0 : List R) :
    Except PlanError (JointMove R) := do
  let p0 ← toVec6 "q0" q0
  let v0 ← toVec6 "qd0" qd0
  let pt ← toVec6 "q_target" qTarget
  let cfg := (config.map RtCoreConfig.tick).getD defaultTickEngineConfig
  checkScales accelScale jerkScale
  checkItp cfg.itpS
  let a0 ← seededFrom qdd0
  let traj ← calculated
    (otg cfg.itpS (moveInput cfg p0 v0 a0 pt maxVelocityRadS accelScale jerkScale))
  return moveKnots cfg.itpS pt traj

theorem calculated_ok {answer : Result × Planned R} {traj : Planned R}
    (planned : calculated answer = .ok traj) :
    answer.2 = traj ∧ ∀ code, answer.1 ≠ .error code := by
  obtain ⟨result, plan⟩ := answer
  cases result with
  | error code => cases planned
  | working | finished =>
    cases planned
    exact ⟨rfl, nofun⟩

omit [LinearOrder R] [FloorRing R] in
theorem toVec6_ok {name : String} {v : List R} {out : Vec6 R} (given : toVec6 name v = .ok out) :
    out = vec6 v := by
  unfold toVec6 at given
  split at given
  · cases given
  · cases given
    rfl

/-- What Ruckig is given for a move. -/
def jointInput (cfg : TickEngineConfig R) (q0 qd0 qTarget : List R)
    (maxVelocityRadS accelScale jerkScale : R) (qdd0 : List R) : InputParameter R :=
  moveInput cfg (vec6 q0) (vec6 qd0) (if qdd0.isEmpty then 0 else vec6 qdd0) (vec6 qTarget)
    maxVelocityRadS accelScale jerkScale

/-- What is emitted is the planned trajectory, sampled. -/
theorem planJointMove_ok {otg : Planner R} {q0 qd0 qTarget : List R} {config : RtCoreConfig R}
    {maxVelocityRadS accelScale jerkScale : R} {qdd0 : List R} {move : JointMove R}
    (emitted : planJointMove otg q0 qd0 qTarget (some config) maxVelocityRadS accelScale jerkScale
      qdd0 = .ok move) :
    move = moveKnots config.tick.itpS (vec6 qTarget) (otg config.tick.itpS (jointInput config.tick
      q0 qd0 qTarget maxVelocityRadS accelScale jerkScale qdd0)).2 := by
  unfold planJointMove at emitted
  obtain ⟨p0, start, rest⟩ := bind_ok emitted
  obtain ⟨v0, speed, rest⟩ := bind_ok rest
  obtain ⟨pt, target, rest⟩ := bind_ok rest
  obtain ⟨_, _, rest⟩ := bind_ok rest
  obtain ⟨_, _, rest⟩ := bind_ok rest
  obtain ⟨a0, curvature, rest⟩ := bind_ok rest
  obtain ⟨traj, planned, finished⟩ := bind_ok rest
  have seed : a0 = if qdd0.isEmpty then 0 else vec6 qdd0 := by
    unfold seededFrom at curvature
    by_cases empty : qdd0.isEmpty = true
    · rw [if_pos empty] at curvature ⊢
      cases curvature
      rfl
    · rw [if_neg empty] at curvature ⊢
      exact toVec6_ok curvature
  rw [toVec6_ok start, toVec6_ok speed, toVec6_ok target, seed] at planned
  rw [toVec6_ok target] at finished
  cases finished
  rw [← (calculated_ok planned).1]
  rfl

/-- Six values each and admitted scales: nothing else but Ruckig refuses a move. -/
theorem planJointMove_emits (otg : Planner R) (q0 qd0 qTarget : List R) (config : RtCoreConfig R)
    (maxVelocityRadS accelScale jerkScale : R) (start : q0.length = kNumJoints)
    (speed : qd0.length = kNumJoints) (target : qTarget.length = kNumJoints)
    (accel : 0 < accelScale ∧ accelScale ≤ 1) (jerk : 0 < jerkScale ∧ jerkScale ≤ 1)
    (period : 0 < config.tick.itpS) {traj : Planned R}
    (planned : otg config.tick.itpS (jointInput config.tick q0 qd0 qTarget maxVelocityRadS
      accelScale jerkScale []) = (.working, traj)) :
    planJointMove otg q0 qd0 qTarget (some config) maxVelocityRadS accelScale jerkScale [] =
      .ok (moveKnots config.tick.itpS (vec6 qTarget) traj) := by
  have scales : checkScales accelScale jerkScale = .ok () := by
    rw [checkScales, if_neg]
    simp only [accel, jerk, and_self, not_true, or_self, not_false_eq_true]
  have itp : checkItp config.tick.itpS = .ok () := if_pos period
  have given (name : String) (v : List R) (length : v.length = kNumJoints) :
      toVec6 name v = .ok (vec6 v) := if_neg (not_not.mpr length)
  unfold planJointMove
  rw [given _ _ start, given _ _ speed, given _ _ target]
  simp only [bind, Except.bind, Option.map_some, Option.getD_some, scales, itp, seededFrom,
    List.isEmpty_nil, if_true]
  have answered : otg config.tick.itpS (moveInput config.tick (vec6 q0) (vec6 qd0) 0 (vec6 qTarget)
      maxVelocityRadS accelScale jerkScale) = (.working, traj) := planned
  rw [answered]
  rfl

end Plan

/-! ### Evenly spaced times in whole nanoseconds -/

section Stamps

variable {R : Type} [Field R] [LinearOrder R] [FloorRing R]

/-- The `k`-th of `n` even parts of a duration, in doubles. -/
def part (exec : R) (n k : Nat) : R := double (exec * double ((k : R) / (n : R)))

/-- It in whole nanoseconds. -/
def stamp (R : Type) [Field R] [LinearOrder R] [FloorRing R] (exec : Int) (n k : Nat) : Int :=
  llround (part (exec : R) n k)

/-- The error the doubles make of it. -/
def drift (R : Type) [Field R] [LinearOrder R] [FloorRing R] (exec : Int) (n k : Nat) : R :=
  part (exec : R) n k - exec * ((k : R) / (n : R))

/-- How far behind `k` whole periods it lies, the error included: `n` periods are longer than the
duration by what the last of them has to spare. -/
def lag (R : Type) [Field R] [LinearOrder R] [FloorRing R] (exec itp : Int) (n k : Nat) : R :=
  ((n * itp - exec : Int) : R) * ((k : R) / (n : R)) - drift R exec n k

/-- A half nanosecond that one part lags by, the next one lags by too: no error carries it
back. -/
def Steady (R : Type) [Field R] [LinearOrder R] [FloorRing R] (exec itp : Int) (n : Nat) : Prop :=
  ∀ k < n, ∀ m : Int, (m : R) + 1 / 2 < lag R exec itp n k →
    (m : R) + 1 / 2 < lag R exec itp n (k + 1)

/-- The duration is a whole number of periods, or has more to spare than the errors amount to. -/
def Spaced (exec itp : Int) (n : Nat) : Prop :=
  (exec = n * itp ∧ exec ≤ 2 ^ 50) ∨ n * exec ≤ 2 ^ 51 * (n * itp - exec)

instance (exec itp : Int) (n : Nat) : Decidable (Spaced exec itp n) :=
  inferInstanceAs (Decidable (_ ∨ _))

variable [IsStrictOrderedRing R] {exec itp : Int} {n k : Nat}

theorem part_zero (exec : R) (n : Nat) : part exec n 0 = 0 := by
  rw [part, Nat.cast_zero, zero_div, double_zero, mul_zero, double_zero]

theorem stamp_zero (exec : Int) (n : Nat) : stamp R exec n 0 = 0 := by
  rw [stamp, part_zero, ← Int.cast_zero, llround_intCast le_rfl]

/-- Rounding takes no part past the duration. -/
theorem part_range {exec : R} (whole : double exec = exec) (nonneg : 0 ≤ exec) (positive : 0 < n)
    (le : k ≤ n) : 0 ≤ part exec n k ∧ part exec n k ≤ exec := by
  have parts : (0 : R) < n := by exact_mod_cast positive
  have fraction : (0 : R) ≤ k / n := by positivity
  have share : double ((k : R) / n) ≤ 1 := by
    apply nearest_le_of_le .one
    rw [div_le_one parts]
    exact_mod_cast le
  constructor
  · exact nearest_nonneg (mul_nonneg nonneg (nearest_nonneg fraction))
  · apply nearest_le_of_le (whole ▸ nearest_representable 52 exec)
    exact mul_le_of_le_one_right nonneg share

theorem part_last {exec : R} (whole : double exec = exec) (positive : 0 < n) :
    part exec n n = exec := by
  have some : (n : R) ≠ 0 := by exact_mod_cast positive.ne'
  rw [part, div_self some, double_one, mul_one, whole]

section Exact

variable (whole : double (exec : R) = exec) (nonneg : 0 ≤ exec) (positive : 0 < n)

include whole nonneg positive in
theorem stamp_last : stamp R exec n n = exec := by
  rw [stamp, part_last whole positive, llround_intCast nonneg]

include whole nonneg positive in
theorem stamp_range (le : k ≤ n) : 0 ≤ stamp R exec n k ∧ stamp R exec n k ≤ exec := by
  have duration : (0 : R) ≤ exec := by exact_mod_cast nonneg
  obtain ⟨least, most⟩ := part_range whole duration positive le
  constructor
  · exact llround_nonneg least
  · calc stamp R exec n k ≤ llround (exec : R) := llround_mono least most
      _ = exec := llround_intCast nonneg

include nonneg positive in
/-- Two roundings, each of a number up to the duration. -/
theorem drift_le (le : k ≤ n) : |drift R exec n k| ≤ exec / 2 ^ 52 := by
  have duration : (0 : R) ≤ exec := by exact_mod_cast nonneg
  have parts : (0 : R) < n := by exact_mod_cast positive
  have fraction : (0 : R) ≤ k / n := by positivity
  have most : (k : R) / n ≤ 1 := by
    rw [div_le_one parts]
    exact_mod_cast le
  have share : double ((k : R) / n) ≤ 1 := nearest_le_of_le .one most
  have least : 0 ≤ double ((k : R) / n) := nearest_nonneg fraction
  have quotient : |double ((k : R) / n) - k / n| ≤ 1 / 2 ^ 53 := by
    refine (nearest_error 52 _).trans ?_
    rw [abs_of_nonneg fraction]
    gcongr
  have product : |part (exec : R) n k - exec * double ((k : R) / n)| ≤ exec / 2 ^ 53 := by
    refine (nearest_error 52 _).trans ?_
    rw [abs_of_nonneg (mul_nonneg duration least)]
    gcongr
    exact mul_le_of_le_one_right duration share
  have scaled : |exec * double ((k : R) / n) - exec * (k / n)| ≤ exec / 2 ^ 53 := by
    rw [← mul_sub, abs_mul, abs_of_nonneg duration, div_eq_mul_one_div (exec : R)]
    exact mul_le_mul_of_nonneg_left quotient duration
  calc |drift R exec n k|
      ≤ |part (exec : R) n k - exec * double ((k : R) / n)| +
        |exec * double ((k : R) / n) - exec * (k / n)| := abs_sub_le _ _ _
    _ ≤ exec / 2 ^ 52 := by linarith

end Exact

/-- A stamp is its number of periods, less the lag rounded to a nanosecond. -/
theorem stamp_lag (itp : Int) (least : 0 ≤ part (exec : R) n k) (positive : 0 < n) :
    stamp R exec n k = k * itp + ⌊1 / 2 - lag R exec itp n k⌋ := by
  have parts : (n : R) ≠ 0 := by exact_mod_cast positive.ne'
  have behind : part (exec : R) n k + 1 / 2 =
      ((k * itp : Int) : R) + (1 / 2 - lag R exec itp n k) := by
    rw [lag, drift]
    push_cast
    field_simp
    ring
  rw [stamp, llround_floor least, behind, Int.floor_intCast_add]

theorem floor_half_le_iff {x y : R} : ⌊1 / 2 - y⌋ ≤ ⌊1 / 2 - x⌋ ↔
    ∀ m : Int, (m : R) + 1 / 2 < x → (m : R) + 1 / 2 < y := by
  constructor
  · intro le m passed
    have below : ⌊1 / 2 - x⌋ < -m := Int.floor_lt.mpr (by push_cast; linarith)
    have lower := Int.floor_lt.mp (le.trans_lt below)
    push_cast at lower
    linarith
  · intro carried
    by_contra more
    rw [not_le, ← Int.le_sub_one_iff] at more
    have low := Int.floor_le (1 / 2 - y)
    have high := Int.lt_floor_add_one (1 / 2 - x)
    have cast : ((⌊1 / 2 - x⌋ : Int) : R) ≤ ⌊1 / 2 - y⌋ - 1 := by exact_mod_cast more
    have passed := carried (-⌊1 / 2 - y⌋) (by push_cast; linarith)
    push_cast at passed
    linarith

section Steps

variable (whole : double (exec : R) = exec) (nonneg : 0 ≤ exec) (positive : 0 < n)

include whole nonneg positive in
/-- Two neighbours lie a period or less apart exactly if the rounded lag does not shrink. -/
theorem stamp_step_iff (lt : k < n) : stamp R exec n (k + 1) - stamp R exec n k ≤ itp ↔
    ∀ m : Int, (m : R) + 1 / 2 < lag R exec itp n k →
      (m : R) + 1 / 2 < lag R exec itp n (k + 1) := by
  have duration : (0 : R) ≤ exec := by exact_mod_cast nonneg
  rw [← floor_half_le_iff,
    stamp_lag itp (part_range whole duration positive lt.le).1 positive,
    stamp_lag itp (part_range whole duration positive lt).1 positive]
  push_cast
  constructor <;> intro le <;> linarith

include nonneg positive in
/-- Where the duration fills its periods, or leaves them more than the errors take, the lag only
grows. -/
theorem Spaced.steady (spaced : Spaced exec itp n) : Steady R exec itp n := by
  intro k lt m passed
  have here := abs_le.mp (drift_le (R := R) nonneg positive lt.le)
  have next := abs_le.mp (drift_le (R := R) nonneg positive (Nat.succ_le_of_lt lt))
  have parts : (0 : R) < n := by exact_mod_cast positive
  rcases spaced with ⟨filled, short⟩ | wide
  · -- nothing to spare: the errors alone stay within a quarter of a nanosecond
    have quarter : (exec : R) / 2 ^ 52 ≤ 1 / 4 := by
      rw [div_le_iff₀ (by positivity)]
      have bound : (exec : R) ≤ 2 ^ 50 := by exact_mod_cast short
      linarith
    simp only [lag, filled, sub_self, Int.cast_zero, zero_mul, zero_sub] at passed ⊢
    rw [filled] at here next quarter
    have below : m < 0 := by
      have cast : (m : R) < 0 := by linarith
      exact_mod_cast cast
    have under : (m : R) ≤ -1 := by exact_mod_cast Int.le_sub_one_of_lt below
    linarith
  · have room : 2 * ((exec : R) / 2 ^ 52) ≤ ((n * itp - exec : Int) : R) / n := by
      rw [le_div_iff₀ parts]
      have cast : (n : R) * exec ≤ 2 ^ 51 * ((n * itp - exec : Int) : R) := by exact_mod_cast wide
      linarith
    have grown : ((n * itp - exec : Int) : R) * (((k + 1 : Nat) : R) / n) =
        ((n * itp - exec : Int) : R) * ((k : R) / n) + ((n * itp - exec : Int) : R) / n := by
      push_cast
      ring
    rw [lag] at passed ⊢
    rw [grown]
    linarith

/-- Ten minutes less a nanosecond at 8 ms: the errors outweigh what 75000 periods have to spare. -/
example : stamp ℚ 599999999999 75000 37503 - stamp ℚ 599999999999 75000 37502 = 8000001 := by
  decide +kernel

include whole nonneg positive in
/-- Parts of one and a half nanoseconds or more keep their order. -/
theorem stamp_lt (lt : k < n) (few : n < 2 ^ 31) (wide : 3 * n ≤ 2 * exec) :
    stamp R exec n k < stamp R exec n (k + 1) := by
  have duration : (0 : R) ≤ exec := by exact_mod_cast nonneg
  have parts : (0 : R) < n := by exact_mod_cast positive
  have here := abs_le.mp (drift_le (R := R) nonneg positive lt.le)
  have next := abs_le.mp (drift_le (R := R) nonneg positive (Nat.succ_le_of_lt lt))
  have grown : (exec : R) * (((k + 1 : Nat) : R) / n) = exec * ((k : R) / n) + exec / n := by
    push_cast
    ring
  have spacing : (3 : R) / 2 ≤ exec / n := by
    rw [le_div_iff₀ parts]
    have cast : (3 : R) * n ≤ 2 * exec := by exact_mod_cast wide
    linarith
  have errors : (exec : R) / 2 ^ 52 ≤ exec / n / 2 ^ 21 := by
    rw [div_div]
    apply div_le_div_of_nonneg_left duration (by positivity)
    have most : (n : R) ≤ 2 ^ 31 := by exact_mod_cast few.le
    linarith
  rw [stamp, stamp, llround_floor (part_range whole duration positive lt.le).1,
    llround_floor (part_range whole duration positive lt).1, ← Int.add_one_le_iff,
    ← Int.floor_add_one]
  apply Int.floor_le_floor
  rw [drift] at here next
  linarith

include whole nonneg in
/-- A nanosecond each: the parts are the nanoseconds themselves. -/
theorem stamp_unit (le : k ≤ n) (unit : exec = n) (few : n < 2 ^ 31) (positive : 0 < n) :
    stamp R exec n k = k := by
  have duration : (0 : R) ≤ exec := by exact_mod_cast nonneg
  have parts : (n : R) ≠ 0 := by exact_mod_cast positive.ne'
  have error := abs_le.mp (drift_le (R := R) nonneg positive le)
  have exact : (exec : R) * ((k : R) / n) = k := by
    rw [unit, Int.cast_natCast]
    field_simp
  have small : (exec : R) / 2 ^ 52 < 1 / 2 := by
    rw [div_lt_iff₀ (by positivity), unit]
    have most : (n : R) ≤ 2 ^ 31 := by exact_mod_cast few.le
    push_cast
    linarith
  rw [drift, exact] at error
  rw [stamp, llround_floor (part_range whole duration positive le).1, Int.floor_eq_iff]
  push_cast
  constructor <;> linarith

end Steps

/-- As many parts as periods, the last one begun. -/
theorem parts_bounds (period : 0 < itp) (long : itp ≤ exec) {parts : Int}
    (counted : parts = ⌈(exec : R) / (itp : R)⌉) :
    1 ≤ parts ∧ (parts - 1) * itp < exec ∧ exec ≤ parts * itp := by
  have positive : (0 : R) < itp := by exact_mod_cast period
  have one : (1 : R) ≤ exec / itp := by
    rw [le_div_iff₀ positive, one_mul]
    exact_mod_cast long
  have above : (exec : R) / itp ≤ parts := counted ▸ Int.le_ceil _
  have below : (parts : R) < exec / itp + 1 := counted ▸ Int.ceil_lt_add_one _
  refine ⟨by exact_mod_cast one.trans above, ?_, ?_⟩
  · have less : (parts : R) - 1 < exec / itp := by linarith
    rw [lt_div_iff₀ positive] at less
    exact_mod_cast less
  · rw [div_le_iff₀ positive] at above
    exact_mod_cast above

end Stamps

/-! ### The emitted knots -/

section Emitted

variable {R : Type} [Field R] [LinearOrder R] [FloorRing R]

/-- What is assumed of a plan: it starts in the state it was given and respects the velocity
limit. -/
structure Respects (inp : InputParameter R) (traj : Planned R) : Prop where
  nonneg : 0 ≤ traj.duration
  limited : ∀ t, 0 ≤ t → t ≤ traj.duration → ∀ j, |(traj.atTime t).qd j| ≤ inp.maxVelocity j
  start : (traj.atTime 0).q = inp.currentPosition ∧ (traj.atTime 0).qd = inp.currentVelocity

/-- Seconds in whole nanoseconds. -/
def roundedNs (seconds : R) : Int := llround (double (seconds * 10 ^ 9))

/-- The duration of the emitted timeline: the plan's, but a period at least. -/
def execNs (itpS : R) (traj : Planned R) : Int := max (roundedNs traj.duration) (roundedNs itpS)

/-- The number of periods the timeline takes, the last one begun. -/
def periods (itpS : R) (traj : Planned R) : Int :=
  ⌈(execNs itpS traj : R) / (roundedNs itpS : R)⌉

/-- The timeline fits in 64 bits and its number of periods in an `int`, and the quotient in
doubles is not rounded down to fewer. -/
def Countable (itpS : R) (traj : Planned R) : Prop :=
  execNs itpS traj ≤ kInt64Max ∧ periods itpS traj ≤ 2 ^ 31 - 1 ∧
    ⌈double ((execNs itpS traj : R) / (roundedNs itpS : R))⌉ = periods itpS traj

instance (itpS : R) (traj : Planned R) : Decidable (Countable itpS traj) :=
  inferInstanceAs (Decidable (_ ∧ _ ∧ _))

/-- The check passes, and the knots are what was asked for. -/
structure Admissible (cfg : TickEngineConfig R) (target : Vec6 R) (traj : Planned R)
    (move : JointMove R) : Prop where
  passes : validateTrajectory cfg.limits.v (givenTimes move.timesNs) (givenRows move.q)
    (some (givenRows move.qd)) = .ok (move.timesNs, move.q, move.qd)
  start : move.timesNs.head? = some 0
  steps : move.timesNs.IsChain fun s t => s < t ∧ t - s ≤ roundedNs cfg.itpS
  finish : move.timesNs.getLast? = some (execNs cfg.itpS traj)
  limited : ∀ v ∈ move.qd, ∀ j, |v j| ≤ cfg.limits.v j
  first : move.qd.head? = some 0
  last : move.q.getLast? = some target ∧ move.qd.getLast? = some 0

variable [IsStrictOrderedRing R] {cfg : TickEngineConfig R} {pt : Vec6 R} {traj : Planned R}

/-- The number of intervals the timeline is divided into. -/
def intervals (itpS : R) (traj : Planned R) : Nat :=
  (max 1 (castInt32 ⌈double ((execNs itpS traj : R) / (roundedNs itpS : R))⌉)).toNat

omit [IsStrictOrderedRing R] in
theorem intervals_pos (itpS : R) (traj : Planned R) : 0 < intervals itpS traj := by
  unfold intervals
  omega

omit [IsStrictOrderedRing R] in
theorem llroundInt64_fits {x : R} (low : 0 ≤ llround x) (high : llround x ≤ kInt64Max) :
    llroundInt64 x = llround x := by
  rw [llroundInt64, if_pos ⟨by simp only [kInt64Min]; omega, high⟩]

/-- Whole nanoseconds are doubles: a fraction has fewer digits left for them than they need. -/
theorem roundedNs_represented {seconds : R} (nonneg : 0 ≤ seconds) :
    double (roundedNs seconds : R) = roundedNs seconds := by
  apply nearest_eq
  have least : 0 ≤ double (seconds * 10 ^ 9) := nearest_nonneg (by positivity)
  have written : Library.Representable 52 (double (seconds * 10 ^ 9)) := nearest_representable _ _
  unfold roundedNs
  generalize double (seconds * 10 ^ 9) = x at least written
  obtain ⟨m, e, small, value⟩ := written
  rcases le_or_gt 0 e with whole | fraction
  · obtain ⟨n, rfl⟩ := Int.eq_ofNat_of_zero_le whole
    have integral : x = ((m * 2 ^ n : Int) : R) := by
      rw [value]
      push_cast
      rw [zpow_natCast]
    have positive : 0 ≤ m * 2 ^ n := by
      rw [integral] at least
      exact_mod_cast least
    rw [integral, llround_intCast positive, ← integral, value]
    exact ⟨m, n, small, rfl⟩
  · have half : (2 : R) ^ e ≤ 1 := zpow_le_one_of_nonpos₀ one_le_two fraction.le
    have digits : (m : R) ≤ 2 ^ 53 := by exact_mod_cast (le_abs_self m).trans small.le
    have short : x ≤ ((2 ^ 53 : Int) : R) := by
      rw [value, Int.cast_pow, Int.cast_ofNat]
      calc (m : R) * 2 ^ e ≤ 2 ^ 53 * 2 ^ e :=
            mul_le_mul_of_nonneg_right digits (zpow_pos two_pos e).le
        _ ≤ 2 ^ 53 := mul_le_of_le_one_right (by positivity) half
    apply Library.Representable.intCast
    rw [abs_of_nonneg (llround_nonneg least)]
    calc llround x ≤ llround ((2 ^ 53 : Int) : R) := llround_mono least short
      _ = 2 ^ 53 := llround_intCast (by positivity)

section Timeline

variable (traj) (pt) (ticks : 0 < roundedNs cfg.itpS) (nonneg : 0 ≤ traj.duration)
  (fits : execNs cfg.itpS traj ≤ kInt64Max)

include ticks in
omit [IsStrictOrderedRing R] in
theorem execNs_pos : 0 < execNs cfg.itpS traj := lt_of_lt_of_le ticks (le_max_right _ _)

omit [IsStrictOrderedRing R] in
theorem itpNs_le_execNs : roundedNs cfg.itpS ≤ execNs cfg.itpS traj := le_max_right _ _

include ticks in
theorem itpNs_represented : double (roundedNs cfg.itpS : R) = roundedNs cfg.itpS := by
  apply roundedNs_represented
  by_contra stopped
  have early : cfg.itpS * 10 ^ 9 ≤ 0 :=
    mul_nonpos_of_nonpos_of_nonneg (not_le.mp stopped).le (by positivity)
  exact absurd ticks (llround_nonpos (nearest_le_of_le .zero early)).not_gt

include ticks nonneg in
theorem execNs_represented : double (execNs cfg.itpS traj : R) = execNs cfg.itpS traj := by
  rcases max_choice (roundedNs traj.duration) (roundedNs cfg.itpS) with plan | period
  · rw [execNs, plan]
    exact roundedNs_represented nonneg
  · rw [execNs, period]
    exact itpNs_represented ticks

include ticks nonneg fits in
/-- In 64 bits nothing is lost of either duration. -/
theorem moveKnots_clocks :
    llroundInt64 (double (traj.duration * 10 ^ 9)) = roundedNs traj.duration ∧
      llroundInt64 (double (cfg.itpS * 10 ^ 9)) = roundedNs cfg.itpS := by
  constructor
  · apply llroundInt64_fits
    · exact llround_nonneg (nearest_nonneg (by positivity))
    · exact (le_max_left _ _).trans fits
  · exact llroundInt64_fits ticks.le ((le_max_right _ _).trans fits)

include ticks nonneg fits in
/-- Both durations are doubles, so the quotient and the parts are taken of what they are. -/
theorem moveKnots_eq : moveKnots cfg.itpS pt traj =
    let n := intervals cfg.itpS traj
    let samples := (List.range (n + 1)).map fun k =>
      traj.atTime (part traj.duration n k)
    { timesNs := (List.range (n + 1)).map fun k =>
        llroundInt64 (part (execNs cfg.itpS traj : R) n k)
      q := (samples.map HermiteSample.q).set n pt
      qd := (samples.map HermiteSample.qd).set n 0
      count :=
        max 1 (castInt32 ⌈double ((execNs cfg.itpS traj : R) / (roundedNs cfg.itpS : R))⌉) + 1
      durationS := double ((execNs cfg.itpS traj : R) / 10 ^ 9) } := by
  obtain ⟨plan, period⟩ := moveKnots_clocks traj ticks nonneg fits
  have exec := execNs_represented traj ticks nonneg
  rw [execNs] at exec
  simp only [moveKnots, plan, period, exec, itpNs_represented ticks]
  rfl

include ticks nonneg fits in
theorem moveKnots_times : (moveKnots cfg.itpS pt traj).timesNs =
    (List.range (intervals cfg.itpS traj + 1)).map
      (stamp R (execNs cfg.itpS traj) (intervals cfg.itpS traj)) := by
  rw [moveKnots_eq pt traj ticks nonneg fits]
  apply List.map_congr_left
  intro k member
  have inside := stamp_range (execNs_represented traj ticks nonneg) (execNs_pos traj ticks).le
    (intervals_pos cfg.itpS traj) (Nat.lt_succ_iff.mp (List.mem_range.mp member))
  exact llroundInt64_fits inside.1 (inside.2.trans fits)

include ticks nonneg fits in
theorem moveKnots_velocities : (moveKnots cfg.itpS pt traj).qd =
    ((List.range (intervals cfg.itpS traj + 1)).map fun k : Nat =>
      (traj.atTime (part traj.duration (intervals cfg.itpS traj) k)).qd).set
        (intervals cfg.itpS traj) 0 := by
  rw [moveKnots_eq pt traj ticks nonneg fits]
  simp only [List.map_map]
  rfl

include ticks nonneg fits in
theorem moveKnots_positions : (moveKnots cfg.itpS pt traj).q =
    ((List.range (intervals cfg.itpS traj + 1)).map fun k : Nat =>
      (traj.atTime (part traj.duration (intervals cfg.itpS traj) k)).q).set
        (intervals cfg.itpS traj) pt := by
  rw [moveKnots_eq pt traj ticks nonneg fits]
  simp only [List.map_map]
  rfl

omit [IsStrictOrderedRing R] in
theorem intervals_few : intervals cfg.itpS traj < 2 ^ 31 := by
  unfold intervals castInt32
  split <;> omega

omit [IsStrictOrderedRing R] in
theorem Countable.counted (countable : Countable cfg.itpS traj) (some : 1 ≤ periods cfg.itpS traj) :
    (intervals cfg.itpS traj : Int) = periods cfg.itpS traj := by
  obtain ⟨-, few, counted⟩ := countable
  rw [intervals, counted, castInt32, if_pos (by omega)]
  omega

include ticks in
/-- Intervals that cover the timeline are as many as its periods. -/
theorem Countable.of_covers (fits : execNs cfg.itpS traj ≤ kInt64Max)
    (covers : execNs cfg.itpS traj ≤ intervals cfg.itpS traj * roundedNs cfg.itpS) :
    Countable cfg.itpS traj := by
  have positive : (0 : R) < roundedNs cfg.itpS := by exact_mod_cast ticks
  have few : intervals cfg.itpS traj < 2 ^ 31 := intervals_few traj
  have enough : periods cfg.itpS traj ≤ intervals cfg.itpS traj := by
    rw [periods, Int.ceil_le, div_le_iff₀ positive]
    exact_mod_cast covers
  have one : 1 ≤ periods cfg.itpS traj :=
    (parts_bounds (R := R) ticks (itpNs_le_execNs traj) rfl).1
  have least : 0 < ⌈double ((execNs cfg.itpS traj : R) / (roundedNs cfg.itpS : R))⌉ := by
    apply Int.ceil_pos.mpr (lt_of_lt_of_le one_pos (le_nearest_of_le .one _))
    rw [le_div_iff₀ positive, one_mul]
    exact_mod_cast itpNs_le_execNs traj
  -- a quotient is rounded past no integer that is a double
  have below : ⌈double ((execNs cfg.itpS traj : R) / (roundedNs cfg.itpS : R))⌉ ≤
      periods cfg.itpS traj := by
    apply Int.ceil_le.mpr
    apply nearest_le_of_le
    · apply Library.Representable.intCast
      rw [abs_of_nonneg (by omega)]
      omega
    · exact Int.le_ceil _
  refine ⟨fits, by omega, ?_⟩
  unfold intervals castInt32 at enough
  split at enough <;> omega

end Timeline

theorem getLast?_set_last {α : Type} {xs : List α} {n : Nat} (length : xs.length = n + 1) (x : α) :
    (xs.set n x).getLast? = some x := by
  rw [List.getLast?_eq_getElem?, List.length_set, length, Nat.add_sub_cancel,
    List.getElem?_set_self (by omega)]

omit [LinearOrder R] [FloorRing R] [IsStrictOrderedRing R] in
theorem vec6_rest {v : List R} (rest : ∀ x ∈ v, x = 0) : vec6 v = 0 := by
  funext j
  rw [vec6, List.getD_eq_getElem?_getD]
  cases found : v[(j : Nat)]? with
  | none => rfl
  | some x => exact rest x (List.mem_of_getElem? found)

section Law

variable (pt) (ticks : 0 < roundedNs cfg.itpS) (nonneg : 0 ≤ traj.duration)

include ticks in
theorem Countable.parts (countable : Countable cfg.itpS traj) :
    (intervals cfg.itpS traj : Int) = periods cfg.itpS traj ∧
      (intervals cfg.itpS traj - 1) * roundedNs cfg.itpS < execNs cfg.itpS traj ∧
      execNs cfg.itpS traj ≤ intervals cfg.itpS traj * roundedNs cfg.itpS := by
  obtain ⟨first, begun, covered⟩ :=
    parts_bounds (R := R) ticks (itpNs_le_execNs traj) (rfl : periods cfg.itpS traj = _)
  have counted := countable.counted traj first
  rw [counted]
  exact ⟨rfl, begun, covered⟩

include ticks nonneg in
/-- The knots keep their order: only a period of a nanosecond leaves them that close. -/
theorem Countable.increasing (countable : Countable cfg.itpS traj) {k : Nat}
    (lt : k < intervals cfg.itpS traj) :
    stamp R (execNs cfg.itpS traj) (intervals cfg.itpS traj) k <
      stamp R (execNs cfg.itpS traj) (intervals cfg.itpS traj) (k + 1) := by
  obtain ⟨-, begun, covered⟩ := countable.parts ticks
  have whole := execNs_represented traj ticks nonneg
  have positive := execNs_pos traj ticks
  have some := intervals_pos cfg.itpS traj
  have few : intervals cfg.itpS traj < 2 ^ 31 := intervals_few traj
  have long : roundedNs cfg.itpS ≤ execNs cfg.itpS traj := itpNs_le_execNs traj
  generalize execNs cfg.itpS traj = exec at *
  generalize intervals cfg.itpS traj = n at *
  rcases (Int.add_one_le_iff.mpr ticks).eq_or_lt with unit | more
  · rw [← unit] at begun covered
    have same : exec = n := by omega
    rw [stamp_unit whole positive.le lt.le same few some,
      stamp_unit whole positive.le lt same few some]
    omega
  · apply stamp_lt whole positive.le some lt few
    have twice : ((n : Int) - 1) * 2 ≤ (n - 1) * roundedNs cfg.itpS :=
      mul_le_mul_of_nonneg_left (by omega) (by omega)
    omega

include ticks nonneg in
theorem Countable.steps_iff (countable : Countable cfg.itpS traj) :
    ((moveKnots cfg.itpS pt traj).timesNs.IsChain fun s t => s < t ∧ t - s ≤ roundedNs cfg.itpS) ↔
      Steady R (execNs cfg.itpS traj) (roundedNs cfg.itpS) (periods cfg.itpS traj).toNat := by
  obtain ⟨counted, -⟩ := countable.parts ticks
  have same : (periods cfg.itpS traj).toNat = intervals cfg.itpS traj := by omega
  have step {k : Nat} (lt : k < intervals cfg.itpS traj) :
      stamp R (execNs cfg.itpS traj) (intervals cfg.itpS traj) (k + 1) -
        stamp R (execNs cfg.itpS traj) (intervals cfg.itpS traj) k ≤ roundedNs cfg.itpS ↔ _ :=
    stamp_step_iff (execNs_represented traj ticks nonneg) (execNs_pos traj ticks).le
      (intervals_pos cfg.itpS traj) lt
  rw [moveKnots_times pt traj ticks nonneg countable.1, List.isChain_map, List.isChain_range, same]
  constructor
  · intro chain k lt
    exact (step lt).mp (chain k (by omega)).2
  · intro steady k lt
    exact ⟨countable.increasing ticks nonneg (by omega),
      (step (by omega)).mpr (steady k (by omega))⟩

include ticks nonneg in
/-- Steps of a period or less reach the end in as many intervals only if these cover it. -/
theorem steps_cover (fits : execNs cfg.itpS traj ≤ kInt64Max)
    (steps : (moveKnots cfg.itpS pt traj).timesNs.IsChain fun s t =>
      s < t ∧ t - s ≤ roundedNs cfg.itpS) :
    execNs cfg.itpS traj ≤ intervals cfg.itpS traj * roundedNs cfg.itpS := by
  rw [moveKnots_times pt traj ticks nonneg fits, List.isChain_map, List.isChain_range] at steps
  have reached : ∀ k ≤ intervals cfg.itpS traj,
      stamp R (execNs cfg.itpS traj) (intervals cfg.itpS traj) k ≤ k * roundedNs cfg.itpS := by
    intro k
    induction k with
    | zero =>
      intro _
      rw [stamp_zero, Nat.cast_zero, zero_mul]
    | succ k ih =>
      intro le
      have before := ih (by omega)
      have step := (steps k (by omega)).2
      push_cast
      linarith
  have last := stamp_last (execNs_represented traj ticks nonneg) (execNs_pos traj ticks).le
    (intervals_pos cfg.itpS traj)
  exact last ▸ reached _ le_rfl

include ticks nonneg in
theorem moveKnots_ends (fits : execNs cfg.itpS traj ≤ kInt64Max) :
    (moveKnots cfg.itpS pt traj).timesNs.head? = some 0 ∧
      (moveKnots cfg.itpS pt traj).timesNs.getLast? = some (execNs cfg.itpS traj) := by
  rw [moveKnots_times pt traj ticks nonneg fits]
  constructor
  · rw [List.range_succ_eq_map, List.map_cons, List.head?_cons, stamp_zero]
  · rw [List.range_succ, List.map_append, List.map_singleton, List.getLast?_concat,
      stamp_last (execNs_represented traj ticks nonneg) (execNs_pos traj ticks).le
        (intervals_pos cfg.itpS traj)]

include ticks nonneg in
/-- Sampled at rest and within the limits, then pinned to rest. -/
theorem moveKnots_speeds (fits : execNs cfg.itpS traj ≤ kInt64Max)
    (limited : ∀ t, 0 ≤ t → t ≤ traj.duration → ∀ j, |(traj.atTime t).qd j| ≤ cfg.limits.v j)
    (rest : (traj.atTime 0).qd = 0) :
    (∀ v ∈ (moveKnots cfg.itpS pt traj).qd, ∀ j, |v j| ≤ cfg.limits.v j) ∧
      (moveKnots cfg.itpS pt traj).qd.head? = some 0 := by
  have many := intervals_pos cfg.itpS traj
  rw [moveKnots_velocities pt traj ticks nonneg fits]
  constructor
  · intro v member j
    rcases List.mem_or_eq_of_mem_set member with sampled | rfl
    · obtain ⟨k, inside, rfl⟩ := List.mem_map.mp sampled
      have between := part_range traj.represented nonneg many
        (Nat.lt_succ_iff.mp (List.mem_range.mp inside))
      exact limited _ between.1 between.2 j
    · have still := limited 0 le_rfl nonneg j
      rw [rest] at still
      exact still
  · obtain ⟨n, counted⟩ := Nat.exists_eq_add_one_of_ne_zero many.ne'
    rw [counted, List.range_succ_eq_map, List.map_cons, List.set_cons_succ, List.head?_cons,
      part_zero, rest]

/-- Knots within the limits, at rest where they start, pass the check of the speeds. -/
theorem speeds_pass {qd : List (Vec6 R)} (limited : ∀ v ∈ qd, ∀ j, |v j| ≤ cfg.limits.v j)
    (first : qd.head? = some 0) : overLimit cfg.limits.v qd = [] ∧ overEnvelope qd = [] := by
  constructor
  · rw [overLimit, List.filter_eq_nil_iff]
    intro j _ exceeds
    obtain ⟨v, member, fast⟩ := List.any_eq_true.mp exceeds
    rw [decide_eq_true_eq] at fast
    have margin : (0 : R) < 1 / 10 ^ 9 := by positivity
    linarith [limited v member j]
  · rw [overEnvelope, List.filter_eq_nil_iff]
    intro j _ exceeds
    have still : qd.getD 0 0 j = 0 := by
      rw [List.getD_eq_getElem?_getD, ← List.head?_eq_getElem?, first]
      rfl
    have envelope : (0 : R) ≤ deg2rad kCaptureRateDegS * (1 + 1 / 10 ^ 9) := by
      norm_num [deg2rad, kCaptureRateDegS, kPi]
    rw [decide_eq_true_eq, still, abs_zero] at exceeds
    exact absurd exceeds (not_lt.mpr envelope)

variable (cfg) in
include ticks in
/-- The knots of a plan that respects what it was given are admissible exactly if they can be
counted and the errors keep them a period apart. -/
theorem moveKnots_admissible_iff {inp : InputParameter R} (respects : Respects inp traj)
    (velocity : ∀ j, inp.maxVelocity j ≤ cfg.limits.v j) (rest : inp.currentVelocity = 0) :
    Admissible cfg pt traj (moveKnots cfg.itpS pt traj) ↔ Countable cfg.itpS traj ∧
      Steady R (execNs cfg.itpS traj) (roundedNs cfg.itpS) (periods cfg.itpS traj).toNat := by
  have nonneg := respects.nonneg
  constructor
  · intro admissible
    have accepted := validateTrajectory_accepted admissible.passes
    have fits : execNs cfg.itpS traj ≤ kInt64Max :=
      (accepted.range _ (List.mem_of_getLast? admissible.finish)).2
    have countable := Countable.of_covers traj ticks fits
      (steps_cover pt ticks nonneg fits admissible.steps)
    exact ⟨countable, (countable.steps_iff pt ticks nonneg).mp admissible.steps⟩
  · rintro ⟨countable, steady⟩
    have fits := countable.1
    have limited (t : R) (begun : 0 ≤ t) (until_ : t ≤ traj.duration) (j : Fin kNumJoints) :
        |(traj.atTime t).qd j| ≤ cfg.limits.v j :=
      (respects.limited t begun until_ j).trans (velocity j)
    obtain ⟨slow, first⟩ :=
      moveKnots_speeds pt ticks nonneg fits limited (respects.start.2.trans rest)
    obtain ⟨start, finish⟩ := moveKnots_ends pt ticks nonneg fits
    have steps := (countable.steps_iff pt ticks nonneg).mpr steady
    have many := intervals_pos cfg.itpS traj
    have times : (moveKnots cfg.itpS pt traj).timesNs.length = intervals cfg.itpS traj + 1 := by
      rw [moveKnots_times pt traj ticks nonneg fits, List.length_map, List.length_range]
    have positions : (moveKnots cfg.itpS pt traj).q.length = intervals cfg.itpS traj + 1 := by
      rw [moveKnots_positions pt traj ticks nonneg fits, List.length_set, List.length_map,
        List.length_range]
    have velocities : (moveKnots cfg.itpS pt traj).qd.length = intervals cfg.itpS traj + 1 := by
      rw [moveKnots_velocities pt traj ticks nonneg fits, List.length_set, List.length_map,
        List.length_range]
    have range : ∀ t ∈ (moveKnots cfg.itpS pt traj).timesNs, -kInt64Max ≤ t ∧ t ≤ kInt64Max := by
      intro t member
      rw [moveKnots_times pt traj ticks nonneg fits] at member
      obtain ⟨k, inside, rfl⟩ := List.mem_map.mp member
      have between := stamp_range (execNs_represented traj ticks nonneg) (execNs_pos traj ticks).le
        many (Nat.lt_succ_iff.mp (List.mem_range.mp inside))
      simp only [kInt64Max] at fits ⊢
      omega
    have speeds := speeds_pass slow first
    constructor
    · apply Accepted.passes
      exact ⟨by omega, times.trans positions.symm, velocities.trans positions.symm,
        steps.imp fun _ _ step => step.1, range, speeds.1, speeds.2⟩
    · exact start
    · exact steps
    · exact finish
    · exact slow
    · exact first
    · constructor
      · rw [moveKnots_positions pt traj ticks nonneg fits]
        apply getLast?_set_last
        rw [List.length_map, List.length_range]
      · rw [moveKnots_velocities pt traj ticks nonneg fits]
        apply getLast?_set_last
        rw [List.length_map, List.length_range]

end Law

omit [IsStrictOrderedRing R] in
theorem jointInput_velocity (cfg : TickEngineConfig R) (q0 qd0 qTarget : List R)
    (maxVelocityRadS accelScale jerkScale : R) (qdd0 : List R) (j : Fin kNumJoints) :
    (jointInput cfg q0 qd0 qTarget maxVelocityRadS accelScale jerkScale qdd0).maxVelocity j ≤
      cfg.limits.v j := by
  simp only [jointInput, moveInput]
  split
  · exact min_le_left _ _
  · exact le_rfl

/-- A move planned from rest is one the driver lets through, a period or less between its
knots, exactly if its timeline can be counted and no rounding carries a knot back over a half
nanosecond. One with more to spare than the roundings take, or nothing, is. -/
theorem planned_move_admissible_iff (otg : Planner R) (config : RtCoreConfig R)
    (ticks : 0 < roundedNs config.tick.itpS) (q0 qd0 qTarget : List R) (rest : ∀ v ∈ qd0, v = 0)
    (maxVelocityRadS accelScale jerkScale : R) (qdd0 : List R) (move : JointMove R)
    (emitted : planJointMove otg q0 qd0 qTarget (some config) maxVelocityRadS accelScale jerkScale
      qdd0 = .ok move) (traj : Planned R)
    (planned : (otg config.tick.itpS (jointInput config.tick q0 qd0 qTarget maxVelocityRadS
      accelScale jerkScale qdd0)).2 = traj)
    (respects : Respects (jointInput config.tick q0 qd0 qTarget maxVelocityRadS accelScale jerkScale
      qdd0) traj) :
    (Admissible config.tick (vec6 qTarget) traj move ↔ Countable config.tick.itpS traj ∧
      Steady R (execNs config.tick.itpS traj) (roundedNs config.tick.itpS)
        (periods config.tick.itpS traj).toNat) ∧
    (Countable config.tick.itpS traj →
      Spaced (execNs config.tick.itpS traj) (roundedNs config.tick.itpS)
        (periods config.tick.itpS traj).toNat →
      Admissible config.tick (vec6 qTarget) traj move) := by
  rw [planJointMove_ok emitted, planned]
  have verdict := moveKnots_admissible_iff config.tick (vec6 qTarget) ticks respects
    (jointInput_velocity config.tick q0 qd0 qTarget maxVelocityRadS accelScale jerkScale qdd0)
    (vec6_rest rest)
  refine ⟨verdict, fun countable spaced => verdict.mpr ⟨countable, ?_⟩⟩
  obtain ⟨counted, -⟩ := countable.parts ticks
  have some := intervals_pos config.tick.itpS traj
  exact spaced.steady (execNs_pos traj ticks).le (by omega)

end Emitted

/-! ### A move that stays, and one that cannot be counted -/

section Bench

/-- What is planned to where the arm already is. -/
def stayPlanner : Planner ℚ := fun _ inp =>
  (.working, ⟨0, fun _ => .atRest inp.currentPosition, double_zero⟩)

theorem stay_respects : Respects (jointInput (defaultRtCoreConfig : RtCoreConfig ℚ).tick
    (List.replicate 6 0) (List.replicate 6 0) (List.replicate 6 0) (1 / 2) 1 1 [])
    (⟨0, fun _ => .atRest (vec6 (List.replicate 6 0)), double_zero⟩ : Planned ℚ) := by
  constructor
  · exact le_rfl
  · intro t _ _ j
    have limit : ∀ j, (jointInput (defaultRtCoreConfig : RtCoreConfig ℚ).tick (List.replicate 6 0)
        (List.replicate 6 0) (List.replicate 6 0) (1 / 2) 1 1 []).maxVelocity j = 1 / 2 := by
      decide +kernel
    rw [limit]
    have still : |(0 : ℚ)| ≤ 1 / 2 := by norm_num
    exact still
  · decide +kernel

theorem planned_move_admissible_iff_stay :
    ∃ move, planJointMove stayPlanner (List.replicate 6 0) (List.replicate 6 0)
        (List.replicate 6 0) (some defaultRtCoreConfig) (1 / 2) 1 1 [] = .ok move ∧
      Admissible (defaultRtCoreConfig : RtCoreConfig ℚ).tick (vec6 (List.replicate 6 0))
        ⟨0, fun _ => .atRest (vec6 (List.replicate 6 0)), double_zero⟩ move := by
  have emitted := planJointMove_emits stayPlanner (List.replicate 6 0) (List.replicate 6 0)
    (List.replicate 6 0) defaultRtCoreConfig (1 / 2) 1 1 rfl rfl rfl (by norm_num) (by norm_num)
    (by decide +kernel) rfl
  refine ⟨_, emitted, ?_⟩
  have verdict := planned_move_admissible_iff stayPlanner defaultRtCoreConfig (by decide +kernel)
    (List.replicate 6 0) (List.replicate 6 0) (List.replicate 6 0) (by decide) (1 / 2) 1 1 [] _
    emitted _ rfl stay_respects
  exact verdict.2 (by decide +kernel) (by decide +kernel)

/-- The jerk-limited way from rest into a cruise that `lapse` twice reaches: position, velocity
and acceleration. -/
def sRamp (jerk lapse t : ℚ) : ℚ × ℚ × ℚ :=
  if t ≤ lapse then (jerk * t ^ 3 / 6, jerk * t ^ 2 / 2, jerk * t)
  else if t ≤ 2 * lapse then
    (jerk * lapse ^ 2 * (t - lapse) + jerk * (2 * lapse - t) ^ 3 / 6,
      jerk * lapse ^ 2 - jerk * (2 * lapse - t) ^ 2 / 2, jerk * (2 * lapse - t))
  else (jerk * lapse ^ 2 * (t - lapse), jerk * lapse ^ 2, 0)

/-- A velocity-limited move of the first joint, from zero by `travel`, whose duration is a
double. -/
def sCurve (jerk lapse travel duration : ℚ) (represented : double duration = duration) :
    Planned ℚ :=
  { duration := duration
    represented := represented
    atTime := fun t =>
      let (q, qd, qdd) :=
        if 2 * t ≤ duration then sRamp jerk lapse t
        else
          let (q, qd, qdd) := sRamp jerk lapse (duration - t)
          (travel - q, qd, -qdd)
      ⟨Function.update 0 0 q, Function.update 0 0 qd, Function.update 0 0 qdd⟩ }

theorem sRamp_velocity (lapse : ℚ) {jerk t : ℚ} (slope : 0 ≤ jerk) (begun : 0 ≤ t) :
    |(sRamp jerk lapse t).2.1| ≤ jerk * lapse ^ 2 := by
  have square (x : ℚ) (low : 0 ≤ x) (high : x ≤ lapse) :
      jerk * x ^ 2 / 2 ≤ jerk * lapse ^ 2 / 2 := by
    have less := pow_le_pow_left₀ low high 2
    have scaled := mul_le_mul_of_nonneg_left less slope
    linarith
  have positive (x : ℚ) : 0 ≤ jerk * x ^ 2 := by positivity
  unfold sRamp
  split
  · rename_i early
    rw [abs_of_nonneg (by linarith [positive t])]
    linarith [square t begun early, positive lapse]
  · rename_i late
    split
    · rename_i early
      have rest := square (2 * lapse - t) (by linarith) (by linarith)
      have least := positive (2 * lapse - t)
      exact abs_le.mpr ⟨by linarith [positive lapse], by linarith⟩
    · exact (abs_of_nonneg (positive lapse)).le

/-- A period of a microsecond. -/
def fineConfig : RtCoreConfig ℚ := { defaultRtCoreConfig with tick.itpS := double (1 / 10 ^ 6) }

/-- Three thousand seconds at 30.5 microradians a second, and the time it takes to start and to
stop. -/
def creep : Planned ℚ :=
  sCurve 32 (1 / 2 ^ 10) (3000 / 2 ^ 15) (3000 + 2 / 2 ^ 10) (by decide +kernel)

def creepPlanner : Planner ℚ := fun _ _ => (.working, creep)

/-- Every move planned from rest is admissible. -/
def PlansAdmissible : Prop :=
  ∀ (otg : Planner ℚ) (config : RtCoreConfig ℚ) (q0 qd0 qTarget : List ℚ)
    (maxVelocityRadS accelScale jerkScale : ℚ) (qdd0 : List ℚ) (move : JointMove ℚ),
    0 < roundedNs config.tick.itpS → (∀ v ∈ qd0, v = 0) →
    planJointMove otg q0 qd0 qTarget (some config) maxVelocityRadS accelScale jerkScale qdd0 =
      .ok move →
    Respects (jointInput config.tick q0 qd0 qTarget maxVelocityRadS accelScale jerkScale qdd0)
      (otg config.tick.itpS (jointInput config.tick q0 qd0 qTarget maxVelocityRadS accelScale
        jerkScale qdd0)).2 →
    Admissible config.tick (vec6 qTarget) (otg config.tick.itpS (jointInput config.tick q0 qd0
      qTarget maxVelocityRadS accelScale jerkScale qdd0)).2 move

theorem creep_respects : Respects (jointInput fineConfig.tick (List.replicate 6 0)
    (List.replicate 6 0) [3000 / 2 ^ 15, 0, 0, 0, 0, 0] (1 / 2 ^ 15) 1 1 []) creep := by
  have limit : ∀ j, (jointInput fineConfig.tick (List.replicate 6 0) (List.replicate 6 0)
      [3000 / 2 ^ 15, 0, 0, 0, 0, 0] (1 / 2 ^ 15) 1 1 []).maxVelocity j = 1 / 2 ^ 15 := by
    decide +kernel
  constructor
  · decide +kernel
  · intro t begun until_ j
    rw [limit]
    have slow (x : ℚ) (nonneg : 0 ≤ x) : |(sRamp 32 (1 / 2 ^ 10) x).2.1| ≤ 1 / 2 ^ 15 := by
      have bound := sRamp_velocity (1 / 2 ^ 10) (by norm_num : (0 : ℚ) ≤ 32) nonneg
      linarith
    have still : |(0 : ℚ)| ≤ 1 / 2 ^ 15 := by norm_num
    simp only [creep, sCurve]
    by_cases first : j = 0
    · subst first
      rw [Function.update_self]
      split
      · exact slow t begun
      · exact slow _ (sub_nonneg.mpr until_)
    · rw [Function.update_of_ne first]
      exact still
  · constructor
    · decide +kernel
    · decide +kernel

/-- Three thousand million periods do not fit in an `int`: the move is emitted as two knots
three thousand seconds apart. -/
theorem uncounted_move_is_one_interval : ¬ PlansAdmissible := by
  intro plans
  have emitted := planJointMove_emits creepPlanner (List.replicate 6 0) (List.replicate 6 0)
    [3000 / 2 ^ 15, 0, 0, 0, 0, 0] fineConfig (1 / 2 ^ 15) 1 1 rfl rfl rfl (by norm_num)
    (by norm_num) (by decide +kernel) rfl
  have admissible := plans creepPlanner fineConfig (List.replicate 6 0) (List.replicate 6 0)
    [3000 / 2 ^ 15, 0, 0, 0, 0, 0] (1 / 2 ^ 15) 1 1 [] _ (by decide +kernel) (by decide) emitted
    creep_respects
  have counted := ((moveKnots_admissible_iff fineConfig.tick _ (by decide +kernel)
    creep_respects (jointInput_velocity _ _ _ _ _ _ _ _) (by decide +kernel)).mp admissible).1
  exact absurd counted (by decide +kernel)

end Bench

end AiroFanuc.Driver
